import Waymark.Text.Lowercase

/-! How a session ended: with its work done, or with work left open for the next one. -/

set_option autoImplicit false

namespace Waymark

inductive Outcome where
  | completed
  | unresolved
  deriving Repr, DecidableEq

namespace Outcome

def names : List (String × Outcome) := [("completed", .completed), ("unresolved", .unresolved)]

def toText : Outcome → String
  | .completed => "completed"
  | .unresolved => "unresolved"

def read (text : String) : Except String Outcome :=
  let name := String.ofList (Text.lowercase text.toList)
  (("complete", completed) :: names).lookup name
    |>.elim (.error ("unknown outcome '" ++ name ++ "' (expected completed or unresolved)")) .ok

end Outcome

end Waymark
