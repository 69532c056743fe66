import Waymark.Disk.Retry
import Waymark.Store.Error

/-! Writing several files or none of them. All temporary files are written first; then they take
their names one by one. When one of them cannot, those that already did are put back to what was read
before.
-/

set_option autoImplicit false

namespace Waymark

structure Staged where
  target : Path
  content : ByteArray
  deriving DecidableEq

/-- A staged file with what stood in its place before. -/
structure Replaced where
  staged : Staged
  prior : Option ByteArray
  deriving DecidableEq

namespace Transaction

/-- Reads what stands in the place of each staged file, whose directory is made where it is
missing. -/
def capture : List Staged → OnDisk FileError (List Replaced)
  | [] => pure []
  | staged :: rest => do
    Disk.ensureParent staged.target
    let prior ← Disk.ask (·.readOptional staged.target)
    return ⟨staged, prior⟩ :: (← capture rest)

/-- Removes the temporary files that are there; one that cannot be removed stays. -/
def discard : List Staged → Disk → Disk
  | [], disk => disk
  | staged :: rest, disk => discard rest (Disk.removeOptional staged.target.temporary disk).2

def restoreOne (attempts : Nat) (replaced : Replaced) : OnDisk FileError Unit :=
  match replaced.prior with
  | some content => do
    Disk.writeTemporary attempts replaced.staged.target content
    Disk.renameTemporary attempts replaced.staged.target
  | none => Disk.removeOptional replaced.staged.target

def restore (attempts : Nat) : List Replaced → Disk → Bool × Disk
  | [], disk => (true, disk)
  | replaced :: rest, disk =>
    let (result, disk) := restoreOne attempts replaced disk
    let (restored, disk) := restore attempts rest disk
    (result.isOk && restored, disk)

/-- Writes the temporary files. After a failure none of them is kept; `written` are those before. -/
def stage (attempts : Nat) (written : List Staged) : List Staged → Storing Unit
  | [], disk => (.ok (), disk)
  | staged :: rest, disk =>
    match Disk.writeTemporary attempts staged.target staged.content disk with
    | (.ok (), disk) => stage attempts (written ++ [staged]) rest disk
    | (.error error, disk) =>
      (.error (.transaction staged.target error true), discard (written ++ [staged]) disk)

/-- Gives the temporary files their names. After a failure those in `done`, the last one first, are
put back. -/
def publish (attempts : Nat) (done : List Replaced) : List Replaced → Storing Unit
  | [], disk => (.ok (), disk)
  | replaced :: rest, disk =>
    match Disk.renameTemporary attempts replaced.staged.target disk with
    | (.ok (), disk) => publish attempts (replaced :: done) rest disk
    | (.error error, disk) =>
      let disk := discard ((replaced :: rest).map (·.staged)) disk
      let (restored, disk) := restore attempts done disk
      (.error (.transaction replaced.staged.target error restored), disk)

def commit (attempts : Nat) (staged : List Staged) : Storing Unit := do
  let replaced ← (capture staged).adapt .io
  stage attempts [] staged
  publish attempts [] replaced

end Transaction

end Waymark
