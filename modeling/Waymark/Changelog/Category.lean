import Waymark.Text.Lowercase

/-! Kinds of change that a changelog entry records. -/

set_option autoImplicit false

namespace Waymark

inductive Category where
  | feature
  | bug
  | fix
  | enhancement
  | refactor
  | breaking
  | docs
  deriving Repr, DecidableEq

namespace Category

def names : List (String × Category) :=
  [("feature", .feature), ("bug", .bug), ("fix", .fix), ("enhancement", .enhancement),
   ("refactor", .refactor), ("breaking", .breaking), ("docs", .docs)]

def toText : Category → String
  | .feature => "feature"
  | .bug => "bug"
  | .fix => "fix"
  | .enhancement => "enhancement"
  | .refactor => "refactor"
  | .breaking => "breaking"
  | .docs => "docs"

/-- Reads a name in any case; documentation may be written out. -/
def read (text : String) : Except String Category :=
  let name := String.ofList (Text.lowercase text.toList)
  (("documentation", docs) :: names).lookup name
    |>.elim (.error ("unknown change category '" ++ name ++ "'")) .ok

end Category

end Waymark
