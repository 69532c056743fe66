import Waymark.Text.Lowercase

/-! How much a summary says: totals and the breakdown by language alone, or also the details per
language and the report of the run.
-/

set_option autoImplicit false

namespace Waymark

inductive Verbosity where
  | minimal
  | standard
  deriving Repr, DecidableEq, Inhabited

namespace Verbosity

def names : List (String × Verbosity) := [("minimal", .minimal), ("standard", .standard)]

def toText : Verbosity → String
  | .minimal => "minimal"
  | .standard => "standard"

def read (text : String) : Except String Verbosity :=
  names.lookup (String.ofList (Text.lowercase text.toList))
    |>.elim (.error ("unknown verbosity '" ++ text ++ "' (expected minimal or standard)")) .ok

end Verbosity

end Waymark
