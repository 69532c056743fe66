import Waymark.Analysis
import Waymark.Ignore.Rules
import Waymark.Scan.Sight
import Waymark.Summary.Basic

/-! What a scan finds below its root. Ignored directories are not entered, links are not followed, and
only files whose extension belongs to a language are looked into. A directory that cannot be listed is passed over.
-/

set_option autoImplicit false

namespace Waymark

structure Scope where
  rules : IgnoreRules
  languages : Languages
  maxFileSize : Count

inductive Finding where
  /-- An ignored directory. -/
  | pruned
  | oversized
  | unreadable
  /-- A directory that cannot be listed. -/
  | closed
  | binary
  | record (found : FileRecord)
  deriving DecidableEq

namespace Finding

def record? : Finding → Option FileRecord
  | .record found => some found
  | _ => none

def isUnread : Finding → Bool
  | .unreadable | .closed => true
  | _ => false

/-- How much of a file is searched for a byte that texts do not hold. -/
def sniffLength : Nat := 8192

def looksBinary (content : ByteArray) : Bool := (content.extract 0 sniffLength).toList.contains 0

def recordOf (path extension : String) (analysis : Analysis) : FileRecord where
  path
  language := extension
  names := analysis.names
  unmarked := analysis.undocumented
  documented := Count.ofLength analysis.documented
  functions := Count.ofLength analysis.names
  lines := analysis.lines

def languageOf? (sight : Sight) (languages : Languages) (name : String) : Option (String × Language) :=
  (sight.extension? name).bind fun extension =>
    let key := String.ofList (Text.asciiLowercase extension.toList)
    (languages.find? key).map (key, ·)

/-- What a file of a size comes to, none as its content where it cannot be read. A file that belongs to
no language is no finding. -/
def ofFile (sight : Sight) (scope : Scope) (names : List String) (size : Nat) (content : Option ByteArray) :
    Except Overflow (List Finding) :=
  match languageOf? sight scope.languages (names.getLastD "") with
  | none => .ok []
  | some (extension, language) =>
    if !sight.opens names then .ok [.unreadable]
    else if scope.maxFileSize.toNat < size then .ok [.oversized]
    else
      match content with
      | none => .ok [.unreadable]
      | some content =>
        if looksBinary content then .ok [.binary]
        else do
          let analysis ← Analysis.ofText language (Text.Utf8.read content)
          return [.record (recordOf ("/".intercalate (names.map sight.text)) extension analysis)]

/-- The findings below a directory, in the order of the names. `names` lead to it from the root of the
scan; directories more than `depth` levels further down are not entered. -/
def below (sight : Sight) (scope : Scope) (tree : Tree) (root : Location) :
    Nat → List String → Except Overflow (List Finding)
  | 0, _ => .ok []
  | depth + 1, names => do
    let findings ← (sight.namesIn tree (root ++ names)).mapM fun name =>
      let names := names ++ [name]
      let node := tree.node? (root ++ names)
      if scope.rules.excludes (names.map sight.text) then
        .ok (if node = some .directory then [.pruned] else [])
      else
        match node with
        | some .directory => if sight.opens names then below sight scope tree root depth names else .ok [.closed]
        | some (.file content) => ofFile sight scope names content.size (some content)
        | some (.locked size) => ofFile sight scope names size none
        | _ => .ok []
    return findings.flatten

end Finding

end Waymark
