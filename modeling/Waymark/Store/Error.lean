import Waymark.Disk.Basic
import Waymark.Json.Shape

/-! Why a store fails. -/

set_option autoImplicit false

namespace Waymark

inductive StoreError where
  /-- A file that is there could not be read, or a directory not be made. -/
  | io (error : FileError)
  /-- A file holds no document of its kind. -/
  | schema (path : Path) (refusal : Json.Refusal)
  | write (path : Path) (error : FileError)
  /-- A file of several was not written. `rolledBack` tells whether those before it were restored. -/
  | transaction (path : Path) (error : FileError) (rolledBack : Bool)
  deriving DecidableEq

namespace StoreError

def flagText (flag : Bool) : String := if flag then "true" else "false"

def message : StoreError → Option String
  | .io error => error.text.map ("I/O error: " ++ ·)
  | .schema path refusal => refusal.reason.map (path.text ++ ": unrecognized document: " ++ ·)
  | .write path error => error.text.map ("failed to write " ++ path.text ++ ": " ++ ·)
  | .transaction path error rolledBack =>
    error.text.map fun text => "transaction failed writing " ++ path.text ++ ": " ++ text ++
      " (rolled back: " ++ flagText rolledBack ++ ")"

end StoreError

abbrev Storing (α : Type) := OnDisk StoreError α

end Waymark
