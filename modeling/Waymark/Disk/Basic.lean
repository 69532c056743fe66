import Waymark.Tree.Basic

/-! The disk that documents are written to: a tree, and a script that decides for each write and each
renaming whether it fails. A write that the script fails may leave something in the file that it was writing;
apart from that a failed call leaves the tree as it is. Reading, removing and making directories are
not scripted.
-/

set_option autoImplicit false

namespace Waymark

structure FileError where
  fault : Fault
  /-- What is said of it; the wording of the system is left to the system. -/
  text : Option String
  deriving DecidableEq

def FileError.ofFault (fault : Fault) : FileError := ⟨fault, none⟩

structure FailedWrite where
  fault : Fault
  /-- What the file holds afterwards, if the write got that far. -/
  left : Option ByteArray
  deriving DecidableEq

/-- Which calls fail and how, each kind of call counted from one. -/
structure FailureScript where
  write : Nat → Option FailedWrite
  rename : Nat → Option Fault

namespace FailureScript

def none : FailureScript := ⟨fun _ => .none, fun _ => .none⟩

/-- Fails the calls of the given numbers, and nothing is left behind. -/
def ofNumbers (writes renames : List Nat) (fault : Fault) : FailureScript where
  write n := if writes.contains n then some ⟨fault, .none⟩ else .none
  rename n := if renames.contains n then some fault else .none

end FailureScript

/-- A call that was made, with whether the script failed it. -/
inductive Call where
  | write (path : Path) (failed : Bool)
  | rename (target : Path) (failed : Bool)
  deriving DecidableEq

namespace Call

def isWrite : Call → Bool
  | .write .. => true
  | .rename .. => false

def isRename (call : Call) : Bool := !call.isWrite

end Call

structure Disk where
  tree : Tree
  script : FailureScript
  /-- Newest first. -/
  calls : List Call
  /-- Later than every change so far. -/
  time : Nat

/-- What is done with a disk; a failure does not undo what was done before it. -/
abbrev OnDisk (ε α : Type) := ExceptT ε (StateM Disk) α

namespace OnDisk

def ofResult {ε δ α : Type} (wrap : ε → δ) (result : Except ε α) : OnDisk δ α := fun disk =>
  (result.mapError wrap, disk)

end OnDisk

namespace Disk

/-- A disk on which nothing fails. -/
def ofTree (tree : Tree) (time : Nat) : Disk := ⟨tree, .none, [], time⟩

/-- The disk under another script, calls counted anew. -/
def withScript (disk : Disk) (script : FailureScript) : Disk := { disk with script, calls := [] }

def nextWrite (disk : Disk) : Nat := disk.calls.countP Call.isWrite + 1

def nextRename (disk : Disk) : Nat := disk.calls.countP Call.isRename + 1

def writeFailure : String := "injected write failure"

def renameFailure : String := "injected rename failure"

/-- Takes the outcome of an operation on the tree; a failed one leaves the tree as it is. -/
def settle (disk : Disk) : Except Fault Tree → Except FileError Unit × Disk
  | .ok tree => (.ok (), { disk with tree, time := disk.time + 1 })
  | .error fault => (.error (.ofFault fault), disk)

def leave (disk : Disk) (path : Path) : Option ByteArray → Disk
  | none => disk
  | some content => (disk.settle (disk.tree.write path content disk.time)).2

def write (path : Path) (content : ByteArray) : OnDisk FileError Unit := fun disk =>
  match disk.script.write disk.nextWrite with
  | some failed =>
    let called := { disk with calls := .write path true :: disk.calls }
    (.error ⟨failed.fault, writeFailure⟩, called.leave path failed.left)
  | none =>
    let called := { disk with calls := .write path false :: disk.calls }
    called.settle (disk.tree.write path content disk.time)

def rename (source target : Path) : OnDisk FileError Unit := fun disk =>
  match disk.script.rename disk.nextRename with
  | some fault =>
    (.error ⟨fault, renameFailure⟩, { disk with calls := .rename target true :: disk.calls })
  | none =>
    let called := { disk with calls := .rename target false :: disk.calls }
    called.settle (disk.tree.rename source target)

def remove (path : Path) : OnDisk FileError Unit := fun disk => disk.settle (disk.tree.remove path)

def removeOptional (path : Path) : OnDisk FileError Unit := fun disk =>
  disk.settle (disk.tree.removeOptional path)

def ensureParent (path : Path) : OnDisk FileError Unit := fun disk =>
  match path.parent? with
  | none => (.ok (), disk)
  | some parent =>
    let (result, tree) := disk.tree.makeDirectories parent disk.time
    (result.mapError .ofFault, { disk with tree })

def ask {α : Type} (question : Tree → Except Fault α) : OnDisk FileError α := fun disk =>
  ((question disk.tree).mapError .ofFault, disk)

end Disk

end Waymark
