import Waymark.Glob.Reader
import Waymark.Text.Blank
import Waymark.Text.Lines

/-! Rules that exclude paths. What a rule means is seen from its pattern: a glob has a star or a
question mark, any other pattern with a slash may occur anywhere in the path, and the rest name one
whole segment.
-/

set_option autoImplicit false

namespace Waymark

inductive IgnoreKind where
  | segment
  | substring
  | glob
  deriving Repr, DecidableEq

structure IgnoreRule where
  pattern : String
  kind : IgnoreKind
  deriving Repr, DecidableEq

namespace IgnoreRule

def dropHere : List Char → List Char
  | '.' :: '/' :: rest => dropHere rest
  | text => text

/-- The pattern of a raw text: blanks around it, slashes at its end and `./` at its start go. -/
def normalize (raw : List Char) : List Char :=
  dropHere (Text.dropWhileEnd (· == '/') (Text.trim raw))

def kindOf (pattern : List Char) : IgnoreKind :=
  if pattern.contains '*' || pattern.contains '?' then .glob
  else if pattern.contains '/' then .substring
  else .segment

def of? (raw : String) : Option IgnoreRule :=
  let pattern := normalize raw.toList
  if pattern.isEmpty then none else some ⟨String.ofList pattern, kindOf pattern⟩

def excludes (rule : IgnoreRule) (segments : List String) : Bool :=
  let joined := "/".intercalate segments
  match rule.kind with
  | .segment => segments.contains rule.pattern
  | .substring => Text.occursIn rule.pattern.toList joined.toList
  | .glob =>
    match Glob.read rule.pattern with
    | .ok glob => glob.isMatch joined || segments.any glob.isMatch
    | .error _ => false

end IgnoreRule

end Waymark
