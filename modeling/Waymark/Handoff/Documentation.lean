import Waymark.Count
import Waymark.Version

/-! How well the stored documents agree with each other and how much is left to document. -/

set_option autoImplicit false

namespace Waymark

structure Documentation where
  summaryPresent : Bool
  changelogPresent : Bool
  summaryVersion : Option Version
  /-- The project version that the newest changelog entry names. -/
  changelogProjectVersion : Option Version
  undocumentedFiles : List String
  undocumentedFunctions : Count
  deriving DecidableEq

namespace Documentation

def versionsConsistent (d : Documentation) : Bool :=
  d.summaryPresent && d.changelogPresent && d.summaryVersion.isSome &&
    d.changelogProjectVersion == d.summaryVersion

def isConsistent (d : Documentation) : Bool :=
  d.versionsConsistent && d.undocumentedFiles.isEmpty

end Documentation

end Waymark
