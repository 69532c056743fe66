import Waymark.Text.Blank
import Waymark.Text.CaseOrbit
import Waymark.Text.Word

/-! Patterns of lines. A pattern is matched at a place of a line in one or more ways, which are
listed in order of preference; the first way at the leftmost place counts.
-/

set_option autoImplicit false

namespace Waymark

namespace Pattern

inductive ClassItem where
  | range (low high : Char)
  | word
  | blank
  deriving DecidableEq, Repr

structure CharClass where
  items : List ClassItem
  negated : Bool
  anyCase : Bool
  deriving DecidableEq, Repr

def ClassItem.has (item : ClassItem) (c : Char) : Bool :=
  match item with
  | .range low high => low ≤ c && c ≤ high
  | .word => Text.isWordChar c
  | .blank => Text.isBlank c

def CharClass.has (set : CharClass) (c : Char) : Bool :=
  let forms := if set.anyCase then Text.caseOrbit c else [c]
  (set.items.any fun item => forms.any item.has) != set.negated

end Pattern

inductive Pattern where
  | empty
  | char (set : Pattern.CharClass)
  /-- The start of the line. -/
  | start
  /-- The end of the line. -/
  | finish
  /-- A place between a word character and something else. -/
  | boundary
  | seq (first second : Pattern)
  | alt (preferred other : Pattern)
  /-- Any number of characters of a set, as many or as few as possible first. -/
  | run (set : Pattern.CharClass) (greedy : Bool)
  /-- Any number of matches in a row. -/
  | repeated (body : Pattern) (greedy : Bool)
  /-- Remembers what the body takes. -/
  | capture (body : Pattern)
  deriving DecidableEq, Repr

namespace Pattern

/-- A part of a line: where it starts, given by what is left of the line there, and its length. -/
structure Span where
  rest : List Char
  length : Nat
  deriving DecidableEq, Repr

def Span.text (span : Span) : List Char := span.rest.take span.length

/-- A place in a line, and what was captured on the way to it. -/
structure Cursor where
  before : Option Char
  rest : List Char
  position : Nat
  captured : Option Span
  deriving DecidableEq, Repr

namespace Cursor

def atStart (line : List Char) : Cursor := ⟨none, line, 0, none⟩

def next? (c : Cursor) : Option Cursor :=
  match c.rest with
  | [] => none
  | first :: rest => some { c with before := some first, rest, position := c.position + 1 }

def touchesWord (side : Option Char) : Bool := side.any Text.isWordChar

def onBoundary (c : Cursor) : Bool := touchesWord c.before != touchesWord c.rest.head?

/-- The places after the longest run of characters of the set and all before it, the last one
first. -/
def runFrom (set : CharClass) (before : Option Char) (position : Nat)
    (captured : Option Span) (passed : List Cursor) : List Char → List Cursor
  | [] => ⟨before, [], position, captured⟩ :: passed
  | first :: rest =>
    let passed := ⟨before, first :: rest, position, captured⟩ :: passed
    if set.has first then runFrom set (some first) (position + 1) captured passed rest else passed

def run (c : Cursor) (set : CharClass) : List Cursor :=
  runFrom set c.before c.position c.captured [] c.rest

def capturing (start finish : Cursor) : Cursor :=
  { finish with captured := some ⟨start.rest, finish.position - start.position⟩ }

end Cursor

/-- Repeats a step that moves forward, `fuel` times at most. -/
def iterate (step : Cursor → List Cursor) (greedy : Bool) : Nat → Cursor → List Cursor
  | 0, c => [c]
  | fuel + 1, c =>
    let further := (step c).flatMap fun next =>
      if c.position < next.position then iterate step greedy fuel next else []
    if greedy then further ++ [c] else c :: further

/-- The places where a match that begins at a place may end, in order of preference. -/
def ends : Pattern → Cursor → List Cursor
  | .empty, c => [c]
  | .char set, c => if c.rest.head?.any set.has then c.next?.toList else []
  | .start, c => if c.before.isNone then [c] else []
  | .finish, c => if c.rest.isEmpty then [c] else []
  | .boundary, c => if c.onBoundary then [c] else []
  | .seq first second, c => (first.ends c).flatMap second.ends
  | .alt preferred other, c => preferred.ends c ++ other.ends c
  | .run set greedy, c => if greedy then c.run set else (c.run set).reverse
  | .repeated body greedy, c => iterate body.ends greedy c.rest.length c
  | .capture body, c => (body.ends c).map c.capturing

/-- The preferred match at the leftmost place from the given one on. -/
def findFrom? (pattern : Pattern) (before : Option Char) (position : Nat) : List Char → Option Cursor
  | [] => (pattern.ends ⟨before, [], position, none⟩).head?
  | first :: rest =>
    match (pattern.ends ⟨before, first :: rest, position, none⟩).head? with
    | some found => some found
    | none => pattern.findFrom? (some first) (position + 1) rest

def find? (pattern : Pattern) (line : List Char) : Option Cursor := pattern.findFrom? none 0 line

def isMatch (pattern : Pattern) (line : List Char) : Bool := (pattern.find? line).isSome

/-- What the capture of a match holds, if the pattern matches and the capture takes part. -/
def captured? (pattern : Pattern) (line : List Char) : Option (List Char) :=
  ((pattern.find? line).bind (·.captured)).map Span.text

end Pattern

end Waymark
