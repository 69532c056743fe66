import Waymark.Glob.Basic

/-! Reading globs. Groups of alternatives may be nested, a backslash takes the next character as it
is, and a class takes a bracket or a dash at its start as itself.
-/

set_option autoImplicit false

namespace Waymark.Glob

inductive Refusal where
  | unclosedClass
  | invalidRange (low high : Char)
  | unopenedGroup
  | unclosedGroup
  | danglingEscape
  deriving Repr, DecidableEq

def Refusal.message : Refusal → String
  | .unclosedClass => "unclosed character class; missing ']'"
  | .invalidRange low high =>
    "invalid range; '" ++ String.singleton low ++ "' > '" ++ String.singleton high ++ "'"
  | .unopenedGroup =>
    "unopened alternate group; missing '\x7b' (maybe escape '\x7d' with '[\x7d]'?)"
  | .unclosedGroup =>
    "unclosed alternate group; missing '\x7d' (maybe escape '\x7b' with '[\x7b]'?)"
  | .danglingEscape => "dangling '\\'"

/-- A group that is still open: its finished branches and the tokens before it, all reversed. -/
structure OpenGroup where
  branches : List (List Token)
  before : List Token

/-- Tokens of the innermost branch in reverse order, and the groups around it. -/
structure Draft where
  tokens : List Token
  groups : List OpenGroup

namespace Draft

def push (d : Draft) (token : Token) : Draft := { d with tokens := token :: d.tokens }

def openGroup (d : Draft) : Draft := ⟨[], ⟨[], d.tokens⟩ :: d.groups⟩

/-- A comma ends a branch inside a group and is itself elsewhere. -/
def comma (d : Draft) : Draft :=
  match d.groups with
  | [] => d.push (.literal ',')
  | group :: groups => ⟨[], { group with branches := d.tokens.reverse :: group.branches } :: groups⟩

def closeGroup (d : Draft) : Except Refusal Draft :=
  match d.groups with
  | [] => .error .unopenedGroup
  | group :: groups =>
    let branches := (d.tokens.reverse :: group.branches).reverse
    .ok ⟨.alternatives branches :: group.before, groups⟩

def finish (d : Draft) : Except Refusal Glob :=
  match d.groups with
  | [] => .ok ⟨d.tokens.reverse⟩
  | _ :: _ => .error .unclosedGroup

def plainStars (d : Draft) : Draft := (d.push .run).push .run

/-- A double star that fills a segment takes the place of the slash before it. -/
def segments (d : Draft) (token : Token) : Draft :=
  match d.tokens with
  | .leading :: _ | .trailing :: _ => d
  | _ :: tokens => { d with tokens := token :: tokens }
  | [] => d.push token

def atSegmentStart (d : Draft) (before : Option Char) : Bool :=
  before == some '/' || !d.groups.isEmpty && (before == some ',' || before == some '{')

/-- A double star after `before` and in front of `next`, and whether it takes a slash that follows. -/
def stars (d : Draft) (before next : Option Char) : Draft × Bool :=
  if d.tokens.isEmpty then
    if next.all (· == '/') then (d.push .leading, true) else (d.plainStars, false)
  else if !d.atSegmentStart before then (d.plainStars, false)
  else if next == none || !d.groups.isEmpty && (next == some ',' || next == some '}') then
    (d.segments .trailing, false)
  else if next == some '/' then (d.segments .between, true)
  else (d.plainStars, false)

end Draft

structure OpenClass where
  negated : Bool
  ranges : List (Char × Char)
  atStart : Bool
  /-- The last character was a dash that may join its neighbours. -/
  inRange : Bool

namespace OpenClass

def extend (c : OpenClass) (high : Char) : Except Refusal OpenClass :=
  match c.ranges with
  | [] => .ok c
  | (low, _) :: ranges =>
    if high < low then .error (.invalidRange low high)
    else .ok { c with ranges := (low, high) :: ranges, atStart := false, inRange := false }

def push (c : OpenClass) (member : Char) : OpenClass :=
  { c with ranges := (member, member) :: c.ranges, atStart := false, inRange := false }

/-- Adds a character other than the bracket that closes the class. -/
def add (c : OpenClass) (member : Char) : Except Refusal OpenClass :=
  if member = '-' && !c.atStart && !c.inRange then .ok { c with inRange := true }
  else if c.inRange then c.extend member
  else .ok (c.push member)

/-- A dash at the end stands for itself. -/
def close (c : OpenClass) : Token :=
  .oneOf c.negated (if c.inRange then c.push '-' else c).ranges.reverse

end OpenClass

/-- Reads a glob from the characters that follow `before`, inside a class if one is open. -/
def readFrom (d : Draft) (before : Option Char) : Option OpenClass → List Char → Except Refusal Glob
  | none, [] => d.finish
  | some _, [] => .error .unclosedClass
  | some open_, c :: rest =>
    if c = ']' && !open_.atStart then readFrom (d.push open_.close) (some c) none rest
    else
      match open_.add c with
      | .ok open_ => readFrom d (some c) (some open_) rest
      | .error refusal => .error refusal
  | none, '?' :: rest => readFrom (d.push .any) (some '?') none rest
  | none, '*' :: '*' :: rest =>
    match d.stars before rest.head?, rest with
    | (d, true), slash :: rest => readFrom d (some slash) none rest
    | (d, _), rest => readFrom d (some '*') none rest
  | none, '*' :: rest => readFrom (d.push .run) (some '*') none rest
  | none, '[' :: '!' :: rest => readFrom d (some '!') (some ⟨true, [], true, false⟩) rest
  | none, '[' :: '^' :: rest => readFrom d (some '^') (some ⟨true, [], true, false⟩) rest
  | none, '[' :: rest => readFrom d (some '[') (some ⟨false, [], true, false⟩) rest
  | none, '{' :: rest => readFrom d.openGroup (some '{') none rest
  | none, '}' :: rest =>
    match d.closeGroup with
    | .ok d => readFrom d (some '}') none rest
    | .error refusal => .error refusal
  | none, ',' :: rest => readFrom d.comma (some ',') none rest
  | none, ['\\'] => .error .danglingEscape
  | none, '\\' :: c :: rest => readFrom (d.push (.literal c)) (some c) none rest
  | none, c :: rest => readFrom (d.push (.literal c)) (some c) none rest

def read (text : String) : Except Refusal Glob := readFrom ⟨[], []⟩ none none text.toList

end Waymark.Glob
