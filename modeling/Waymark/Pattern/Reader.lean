import Waymark.Pattern.Basic

/-! Reading patterns: groups, alternatives, classes, repetition and its reluctant form, the anchors,
the escapes for blanks, word characters and word boundaries, and the flag for any case. Of several
groups the first is the capture.
-/

set_option autoImplicit false

namespace Waymark.Pattern

/-- A character of a pattern, with or without a backslash. -/
inductive Sign where
  | plain (c : Char)
  | escaped (c : Char)
  deriving DecidableEq

def signs : List Char → Option (List Sign)
  | [] => some []
  | ['\\'] => none
  | '\\' :: c :: rest => (signs rest).map (.escaped c :: ·)
  | c :: rest => (signs rest).map (.plain c :: ·)

def escapedChar? (c : Char) : Option Char :=
  if c = 'n' then some '\n'
  else if c = 't' then some '\t'
  else if c = 'r' then some '\r'
  else if c.toNat < 0x80 && !c.isAlphanum && c != '<' && c != '>' then some c
  else none

def classItem? : Sign → Option ClassItem
  | .plain '[' => none
  | .plain c => some (.range c c)
  | .escaped 's' => some .blank
  | .escaped 'w' => some .word
  | .escaped c => (escapedChar? c).map fun c => .range c c

/-- A class that is still open, its members in reverse order. -/
structure OpenClass where
  negated : Bool
  items : List ClassItem

/-- A sequence of patterns in reverse order behind finished alternatives, also in reverse order. -/
structure Branches where
  finished : List Pattern
  current : List Pattern

namespace Branches

def empty : Branches := ⟨[], []⟩

def sequence (reversed : List Pattern) : Pattern :=
  match reversed with
  | [] => .empty
  | last :: before => before.foldl (fun rest first => .seq first rest) last

def push (b : Branches) (pattern : Pattern) : Branches := { b with current := pattern :: b.current }

def alternative (b : Branches) : Branches := ⟨sequence b.current :: b.finished, []⟩

def close (b : Branches) : Pattern :=
  b.finished.foldl (fun rest preferred => .alt preferred rest) (sequence b.current)

end Branches

structure OpenGroup where
  isCapture : Bool
  outer : Branches
  anyCase : Bool

structure Draft where
  branches : Branches
  groups : List OpenGroup
  anyCase : Bool
  /-- Some group has been the capture. -/
  hasCapture : Bool

namespace Draft

def start : Draft := ⟨.empty, [], false, false⟩

def push (d : Draft) (pattern : Pattern) : Draft := { d with branches := d.branches.push pattern }

def pushItem (d : Draft) (item : ClassItem) : Draft :=
  d.push (.char ⟨[item], false, d.anyCase⟩)

def openGroup (d : Draft) (isCapture : Bool) : Draft :=
  { d with
    branches := .empty
    groups := ⟨isCapture, d.branches, d.anyCase⟩ :: d.groups
    hasCapture := d.hasCapture || isCapture }

def closeGroup (d : Draft) : Option Draft :=
  match d.groups with
  | [] => none
  | group :: groups =>
    let body := d.branches.close
    let pattern := if group.isCapture then .capture body else body
    some { d with branches := group.outer.push pattern, groups, anyCase := group.anyCase }

def star (greedy : Bool) : Pattern → Pattern
  | .char set => .run set greedy
  | body => .repeated body greedy

def repeatLast (d : Draft) (operator : Char) (greedy : Bool) : Option Draft :=
  match d.branches.current with
  | [] | .empty :: _ => none
  | last :: before =>
    let repeated :=
      if operator = '?' then if greedy then .alt last .empty else .alt .empty last
      else if operator = '+' then .seq last (star greedy last)
      else star greedy last
    some { d with branches := { d.branches with current := repeated :: before } }

def closeClass (d : Draft) (set : OpenClass) : Draft :=
  d.push (.char ⟨set.items.reverse, set.negated, d.anyCase⟩)

def finish (d : Draft) : Option Pattern :=
  if d.groups.isEmpty then some d.branches.close else none

end Draft

def isOperator (c : Char) : Bool := c = '*' || c = '+' || c = '?'

/-- Reads a pattern, inside a class if one is open. A class takes a bracket as its first member. -/
def readFrom (d : Draft) : Option OpenClass → List Sign → Option Pattern
  | none, [] => d.finish
  | some _, [] => none
  | some set, .plain ']' :: rest =>
    if set.items.isEmpty then readFrom d (some { set with items := [.range ']' ']'] }) rest
    else readFrom (d.closeClass set) none rest
  | some set, low :: .plain '-' :: .plain ']' :: rest =>
    (classItem? low).bind fun low =>
      readFrom (d.closeClass { set with items := .range '-' '-' :: low :: set.items }) none rest
  | some set, low :: .plain '-' :: high :: rest =>
    match classItem? low, classItem? high with
    | some (.range low _), some (.range high _) =>
      if high < low then none
      else readFrom d (some { set with items := .range low high :: set.items }) rest
    | _, _ => none
  | some set, sign :: rest =>
    (classItem? sign).bind fun item => readFrom d (some { set with items := item :: set.items }) rest
  | none, .plain '(' :: .plain '?' :: .plain ':' :: rest => readFrom (d.openGroup false) none rest
  | none, .plain '(' :: .plain '?' :: .plain 'i' :: .plain ')' :: rest =>
    readFrom { d.push .empty with anyCase := true } none rest
  | none, .plain '(' :: .plain '?' :: _ => none
  | none, .plain '(' :: rest => readFrom (d.openGroup (!d.hasCapture)) none rest
  | none, .plain ')' :: rest => d.closeGroup.bind fun d => readFrom d none rest
  | none, .plain '|' :: rest => readFrom { d with branches := d.branches.alternative } none rest
  | none, .plain '[' :: .plain '^' :: rest => readFrom d (some ⟨true, []⟩) rest
  | none, .plain '[' :: rest => readFrom d (some ⟨false, []⟩) rest
  | none, .plain '^' :: rest => readFrom (d.push .start) none rest
  | none, .plain '$' :: rest => readFrom (d.push .finish) none rest
  | none, .plain '.' :: rest =>
    readFrom (d.push (.char ⟨[.range '\n' '\n'], true, false⟩)) none rest
  | none, .plain '{' :: _ => none
  | none, .escaped 's' :: rest => readFrom (d.pushItem .blank) none rest
  | none, .escaped 'w' :: rest => readFrom (d.pushItem .word) none rest
  | none, .escaped 'b' :: rest => readFrom (d.push .boundary) none rest
  | none, .escaped c :: rest =>
    (escapedChar? c).bind fun c => readFrom (d.pushItem (.range c c)) none rest
  | none, .plain c :: .plain '?' :: rest =>
    if isOperator c then (d.repeatLast c false).bind fun d => readFrom d none rest
    else readFrom (d.pushItem (.range c c)) none (.plain '?' :: rest)
  | none, .plain c :: rest =>
    if isOperator c then (d.repeatLast c true).bind fun d => readFrom d none rest
    else readFrom (d.pushItem (.range c c)) none rest

def read? (text : String) : Option Pattern := (signs text.toList).bind (readFrom .start none)

end Waymark.Pattern
