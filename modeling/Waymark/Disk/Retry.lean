import Waymark.Disk.Basic

/-! Calls that are made again after passing failures. The number of attempts is bounded, and there is
at least one.
-/

set_option autoImplicit false

namespace Waymark

/-- Whether a failure may pass by itself. -/
def Fault.isTransient : Fault → Bool
  | .interrupted | .wouldBlock | .timedOut => true
  | _ => false

namespace Disk

variable {α : Type}

/-- Makes a call, and again up to `more` times while the failure may pass. -/
def retryMore (call : OnDisk FileError α) : Nat → OnDisk FileError α
  | 0 => call
  | more + 1 => fun disk =>
    match call disk with
    | (.error error, after) =>
      if error.fault.isTransient then retryMore call more after else (.error error, after)
    | (.ok value, after) => (.ok value, after)

def retry (attempts : Nat) (call : OnDisk FileError α) : OnDisk FileError α :=
  retryMore call (attempts - 1)

def writeTemporary (attempts : Nat) (path : Path) (content : ByteArray) : OnDisk FileError Unit :=
  retry attempts (write path.temporary content)

def renameTemporary (attempts : Nat) (path : Path) : OnDisk FileError Unit :=
  retry attempts (rename path.temporary path)

/-- Replaces a file by way of its temporary file, which does not outlive a failure. -/
def replace (attempts : Nat) (path : Path) (content : ByteArray) : OnDisk FileError Unit := do
  ensureParent path
  fun disk =>
    let written := do
      writeTemporary attempts path content
      renameTemporary attempts path
    match written disk with
    | (.ok (), after) => (.ok (), after)
    | (.error error, after) => (.error error, (removeOptional path.temporary after).2)

end Disk

end Waymark
