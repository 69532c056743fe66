import Waymark.Count
import Waymark.Text.Blank
import Waymark.Text.Lines

/-! Three-part versions. The summary and the changelog each carry one and move it independently. -/

set_option autoImplicit false

namespace Waymark

structure Version where
  major : Count
  minor : Count
  patch : Count
  deriving Repr, DecidableEq

namespace Version

/-- The version of a first summary and of a first changelog. -/
def first : Version := ⟨1, 0, 0⟩

instance : Inhabited Version := ⟨first⟩

def bumpPatch (v : Version) : Except Overflow Version := do
  return { v with patch := ← v.patch.next }

def bumpMinor (v : Version) : Except Overflow Version := do
  return { v with minor := ← v.minor.next, patch := 0 }

def bumpMajor (v : Version) : Except Overflow Version := do
  return ⟨← v.major.next, 0, 0⟩

def le (a b : Version) : Bool :=
  a.major < b.major ||
    a.major == b.major && (a.minor < b.minor || a.minor == b.minor && a.patch ≤ b.patch)

def text (v : Version) : List Char :=
  v.major.text ++ '.' :: v.minor.text ++ '.' :: v.patch.text

def toText (v : Version) : String := String.ofList v.text

/-- Reads three counters between points; blanks around them and any `v` in front are skipped. -/
def read? (text : List Char) : Option Version :=
  match Text.split '.' ((Text.trim text).dropWhile (· == 'v')) with
  | [major, minor, patch] => do
    return ⟨← Count.read? major, ← Count.read? minor, ← Count.read? patch⟩
  | _ => none

structure Malformed where
  text : String
  deriving Repr, DecidableEq

def parse (text : String) : Except Malformed Version :=
  (read? text.toList).elim (.error ⟨text⟩) .ok

def refusal (text : String) : String :=
  "invalid version '" ++ text ++ "': expected MAJOR.MINOR.PATCH"

end Version

end Waymark
