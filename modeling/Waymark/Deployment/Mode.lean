/-! Where the tool works: on its own directory, or on a host project that it is attached to. -/

set_option autoImplicit false

namespace Waymark

inductive Mode where
  | standalone
  | attached
  deriving Repr, DecidableEq

namespace Mode

def names : List (String × Mode) := [("standalone", .standalone), ("attached", .attached)]

def toText : Mode → String
  | .standalone => "standalone"
  | .attached => "attached"

end Mode

end Waymark
