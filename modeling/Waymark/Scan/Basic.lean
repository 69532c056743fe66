import Waymark.Disk.Basic
import Waymark.Scan.Finding

/-! Scanning a source tree. Only a root that cannot be listed is an error; files that are left out are
counted by the reason, and a directory that cannot be listed counts as one that could not be read.
-/

set_option autoImplicit false

namespace Waymark

inductive ScanError where
  | unreadableRoot (path : Path) (error : FileError)
  | overflow (refused : Overflow)
  deriving DecidableEq

namespace ScanError

/-- The wording, where none of it is left to others. -/
def message : ScanError → Option String
  | .unreadableRoot path error =>
    error.text.map fun text => "cannot read scan root " ++ path.text ++ ": " ++ text
  | .overflow refused => some refused.message

end ScanError

structure Scan where
  /-- In ascending order of their paths. -/
  records : List FileRecord
  report : RunReport
  deriving DecidableEq

namespace Scan

def notDirectory : FileError := ⟨.other, some "not a directory"⟩

def rootLocation (tree : Tree) (root : Path) : Except ScanError Location :=
  match tree.resolve root true with
  | .error fault => .error (.unreadableRoot root (.ofFault fault))
  | .ok location =>
    match tree.node? location with
    | some .directory => .ok location
    | some _ => .error (.unreadableRoot root notDirectory)
    | none => .error (.unreadableRoot root (.ofFault .notFound))

def depth (tree : Tree) : Nat := (tree.items.map fun entry => entry.1.length).foldl max 0

def count (findings : List Finding) (finding : Finding) : Count :=
  Count.ofLength (findings.filter (· == finding))

def reportOf (scope : Scope) (findings : List Finding) : RunReport where
  filesScanned := Count.ofLength (findings.filterMap Finding.record?)
  skippedBinary := count findings .binary
  skippedUnreadable := Count.ofLength (findings.filter Finding.isUnread)
  skippedOversized := count findings .oversized
  ruleErrors := Count.ofLength scope.rules.problems
  directoriesPruned := count findings .pruned

def ofFindings (scope : Scope) (findings : List Finding) : Scan where
  records := (findings.filterMap Finding.record?).mergeSort fun a b => decide (a.path ≤ b.path)
  report := reportOf scope findings

def look (sight : Sight) (scope : Scope) (tree : Tree) (root : Path) : Except ScanError Scan := do
  if !sight.opens [] then throw (.unreadableRoot root ⟨.other, none⟩)
  let location ← rootLocation tree root
  let findings ← (Finding.below sight scope tree location (depth tree + 1) []).mapError .overflow
  return ofFindings scope findings

def run (scope : Scope) (tree : Tree) (root : Path) : Except ScanError Scan := look (.below root) scope tree root

end Scan

namespace IgnoreRules

/-- The rules of the ignore file at a path; one that cannot be read as text adds none. -/
def load (tree : Tree) (path : Path) : IgnoreRules :=
  ofFile ((tree.read path).toOption.bind String.fromUTF8?)

end IgnoreRules

end Waymark
