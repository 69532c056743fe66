import Waymark.Config
import Waymark.Disk.Basic

/-! Why a deployment cannot be resolved, and loading the configuration. -/

set_option autoImplicit false

namespace Waymark

inductive DeploymentError where
  /-- The file is there and holds no configuration. -/
  | config (path : Path)
  | toolRoot (path : Path)
  | io (error : FileError)
  deriving DecidableEq

namespace DeploymentError

/-- The wording, where none of it is left to others. -/
def message : DeploymentError → Option String
  | .toolRoot path => some ("tool root " ++ path.text ++ " is not a directory")
  | .config _ => none
  | .io error => error.text.map ("IO error: " ++ ·)

end DeploymentError

/-- Reads the configuration at a path; a missing one is the default. -/
def Config.load (tree : Tree) (path : Path) : Except DeploymentError Config :=
  match tree.read path with
  | .error .notFound => .ok .default
  | .error fault => .error (.io (.ofFault fault))
  | .ok content =>
    match String.fromUTF8? content with
    | none => .error (.io (.ofFault .other))
    | some text => (Config.read? text.toList).elim (.error (.config path)) .ok

end Waymark
