import Waymark.Language.Basic
import Waymark.Text.Lines

/-! The declarations of a source text and which of them are documented. A declaration is documented
if a marker stands in the window around it, cut off at the neighbouring lines with declarations. A
name counts once, where it is first declared.
-/

set_option autoImplicit false

namespace Waymark

structure Analysis where
  /-- Declared names in order of first appearance. -/
  names : List String
  documented : List String
  undocumented : List String
  lines : Count
  deriving DecidableEq, Inhabited

/-- A language as an analysis sees it: what its rules and its marker say of one line. -/
structure Detector where
  /-- Each rule takes at most one name from a line. -/
  rules : List (List Char → Option String)
  isMarked : List Char → Bool
  window : MarkerWindow

structure DeclarationLine where
  index : Nat
  names : List String
  deriving DecidableEq, Repr

namespace MarkerWindow

/-- The first and last line searched for the marker of a declaration, between a floor and a
ceiling. -/
def around (window : MarkerWindow) (index floor ceiling : Nat) : Except Overflow (Nat × Nat) := do
  let below ← Count.add (UInt64.ofNat index) window.below
  return (max (index - window.above.toNat) floor, min below.toNat ceiling)

end MarkerWindow

namespace Analysis

/-- The names in order that are neither in `seen` nor repeated. -/
def fresh (seen : List String) : List String → List String
  | [] => []
  | name :: names =>
    if seen.contains name then fresh seen names else name :: fresh (name :: seen) names

/-- Whether a line between two indices, both included, is marked. -/
def anyMarked (marked : Array Bool) (first last : Nat) : Except Overflow Bool :=
  if first ≤ last + 1 ∧ last < marked.size then .ok ((marked.extract first (last + 1)).any id)
  else .error (.slice first (last + 1) marked.size)

/-- The new names of each declaration line with whether they are documented. The line before the
first one of the list is `floor - 1`; `marked` tells of each line of the text whether it is. -/
def sweep (window : MarkerWindow) (marked : Array Bool) (seen : List String) (floor : Nat) :
    List DeclarationLine → Except Overflow (List (String × Bool))
  | [] => .ok []
  | line :: rest =>
    match fresh seen line.names with
    | [] => sweep window marked seen (line.index + 1) rest
    | names => do
      let ceiling := rest.head?.elim (marked.size - 1) (·.index - 1)
      let (first, last) ← window.around line.index floor ceiling
      let documented ← anyMarked marked first last
      let later ← sweep window marked (names.reverse ++ seen) (line.index + 1) rest
      return names.map (·, documented) ++ later

end Analysis

namespace Detector

def namesOn (detector : Detector) (line : List Char) : List String :=
  detector.rules.filterMap fun rule => rule line

/-- The lines with declarations, counted from `index` on. -/
def declarations (detector : Detector) (index : Nat) : List (List Char) → List DeclarationLine
  | [] => []
  | line :: rest =>
    let later := detector.declarations (index + 1) rest
    match detector.namesOn line with
    | [] => later
    | names => ⟨index, names⟩ :: later

def analysis (detector : Detector) (text : List Char) : Except Overflow Analysis := do
  let lines := Text.lines text
  let marked := (lines.map detector.isMarked).toArray
  let names ← Analysis.sweep detector.window marked [] 0 (detector.declarations 0 lines)
  return {
    names := names.map Prod.fst
    documented := (names.filter Prod.snd).map Prod.fst
    undocumented := (names.filter (!·.2)).map Prod.fst
    lines := Count.ofLength lines }

end Detector

def Language.detector (language : Language) : Detector where
  rules := language.rules.map fun rule => rule.nameOn?
  isMarked := language.isMarked
  window := language.window

def Analysis.ofText (language : Language) (text : List Char) : Except Overflow Analysis :=
  language.detector.analysis text

end Waymark
