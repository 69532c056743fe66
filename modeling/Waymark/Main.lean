import Std.Data.HashMap
import Std.Time.DateTime.Timestamp
import Waymark.Command.Basic
import Waymark.Command.Usage
import Waymark.Time.Epoch
import Waymark.Tree.Change

/-! The command line. What a command may look at is read from the disk into a tree, the command runs on
the tree, and the changes that it made to the tree are carried out on the disk.
-/

set_option autoImplicit false

namespace Waymark.Live

abbrev Sight := Std.HashMap Location Item

abbrev Looking := StateT Sight IO

/-- Files beyond this size are not read into memory unless a scan asks for them. -/
def largest : Nat := 67108864

def deepest : Nat := 4096

/-- Where links point that lead nowhere; no file has such a name. -/
def nowhere : Path := ⟨"/\x00"⟩

def realPath? (text : String) : IO (Option Path) := do
  return (← (IO.FS.realPath text).toBaseIO).toOption.map fun real => ⟨real.toString⟩

def readFile (limit size : Nat) (text : String) : IO Node := do
  if limit < size then return .locked size
  return ((← (IO.FS.readBinFile text).toBaseIO).toOption.map Node.file).getD (.locked size)

/-- What stands at a location, links not followed. -/
def itemAt? (limit : Nat) (location : Location) : IO (Option Item) := do
  let some name := location.getLast? | return some ⟨.directory, 0⟩
  let entry : IO.FS.DirEntry := ⟨⟨(Location.path location.dropLast).text⟩, name⟩
  let .ok seen ← entry.path.symlinkMetadata.toBaseIO | return none
  let modified := (seen.modified.sec * 1000000000).toNat + seen.modified.nsec.toNat
  match seen.type with
  | .dir => return some ⟨.directory, modified⟩
  | .file => return some ⟨← readFile limit seen.byteSize.toNat location.path.text, modified⟩
  | .symlink => return some ⟨.link ((← realPath? location.path.text).getD nowhere), modified⟩
  | .other => return none

def look (limit : Nat) (location : Location) : Looking (Option Item) := do
  if let some item := (← get)[location]? then return item
  let item ← itemAt? limit location
  if let some item := item then modify (·.insert location item)
  return item

def lookAbove (location : Location) : Looking Unit := do
  for length in List.range location.length do
    let _ ← look 0 (location.take length)

def follow (limit : Nat) : Location → List String → Looking Unit
  | _, [] => pure ()
  | here, name :: rest => do
    if name = "." then follow limit here rest
    else if name = ".." then follow limit here.dropLast rest
    else
      match ← look limit (here ++ [name]) with
      | some ⟨.link target, _⟩ =>
        lookAbove target.steps
        let _ ← look limit target.steps
        follow limit target.steps rest
      | _ => follow limit (here ++ [name]) rest

def lookAlong (workingDir : Location) (path : Path) : Looking Unit :=
  follow largest (if path.isAbsolute then [] else workingDir) path.steps

def namesIn (location : Location) : IO (List String) := do
  let entry : IO.FS.DirEntry := ⟨⟨location.path.text⟩, "."⟩
  let held ← entry.path.readDir.toBaseIO
  return (held.toOption.getD #[]).toList.map (·.fileName)

def lookInto (workingDir : Location) (path : Path) : Looking Unit := do
  lookAlong workingDir path
  let some real ← realPath? path.text | return
  lookAbove real.steps
  for name in ← namesIn real.steps do
    follow largest real.steps [name]

def lookBelow (rules : IgnoreRules) (limit : Nat) (root : Location) :
    Nat → List String → Looking Unit
  | 0, _ => pure ()
  | depth + 1, names => do
    for name in ← namesIn (root ++ names) do
      let names := names ++ [name]
      let excluded := rules.excludes names
      let item ← look (if excluded then 0 else limit) (root ++ names)
      if !excluded && item.any (·.node == .directory) then
        lookBelow rules limit root depth names

def seen (workingDir : Location) : Looking Tree := do
  return ⟨(← get).toList, workingDir⟩

/-- Looks at the directory where an invocation starts, the markers above it, and the tool's directory. -/
def lookAround (workingDir : Location) (program : Option Path) (invocation : Invocation) :
    Looking Unit := do
  let base := invocation.base (← seen workingDir)
  lookInto workingDir base
  for directory in ((← realPath? base.text).getD base).ancestors do
    lookAlong workingDir (directory.join Config.fileName)
  lookInto workingDir (invocation.home (← seen workingDir) program)

def lookAtHost (workingDir : Location) (context : Context) : Looking Unit := do
  for entry in context.paths.entries do
    lookInto workingDir (entry.2.parent?.getD entry.2)
  lookInto workingDir context.paths.historyDir
  let inner := context.hostRoot.join Repository.directoryName
  lookInto workingDir inner
  let target := (Repository.linkPath? (← seen workingDir) context.hostRoot inner).getD inner
  lookInto workingDir target
  lookInto workingDir (Repository.commonDir (← seen workingDir) target)

def lookAtSources (workingDir : Location) (resolution : Resolution) : Looking Unit := do
  let paths := resolution.context.paths
  let rules := IgnoreRules.load (← seen workingDir) paths.ignoreFile
  if let some root ← realPath? paths.scanRoot.text then
    lookBelow rules resolution.config.scan.maxFileSize.toNat root.steps deepest []

def lookFor (workingDir : Location) (program : Option Path) (invocation : Invocation) :
    Looking Tree := do
  lookAround workingDir program invocation
  if let .ok resolution := invocation.resolution (← seen workingDir) program then
    lookInto workingDir resolution.context.hostRoot
  if let .ok resolution := invocation.resolution (← seen workingDir) program then
    lookAtHost workingDir resolution.context
    match invocation.command with
    | .scan .. => lookAtSources workingDir resolution
    | _ => pure ()
  seen workingDir

def carryOut : Change → IO Unit
  | .makeDirectory location => IO.FS.createDir location.path.text
  | .removeDirectory location => IO.FS.removeDir location.path.text
  | .remove location => IO.FS.removeFile location.path.text
  | .write location content => do
    let temporary := location.path.temporary.text
    IO.FS.writeBinFile temporary content
    try IO.FS.rename temporary location.path.text
    catch error =>
      IO.FS.removeFile temporary
      throw error

/-- Carries changes out in order; where one fails, those before it are taken back. -/
def carryOutAll (before : Tree) : List Change → IO Unit
  | [] => pure ()
  | change :: rest => do
    carryOut change
    try carryOutAll before rest
    catch error =>
      if let some inverse := change.inverse? before then
        let _ ← (carryOut inverse).toBaseIO
      throw error

def moment : IO Moment := do
  let nanoseconds := (← Std.Time.Timestamp.now).toNanosecondsSinceUnixEpoch.val
  let now := (Time.ofEpoch? (nanoseconds / 1000000000) (nanoseconds % 1000000000).toNat).getD default
  let fresh : IO SessionId := do
    let random := (← IO.getRandomBytes 10).foldl (fun n byte => n * 256 + byte.toNat) 0
    return .ofMoment (nanoseconds / 1000000).toNat random
  return ⟨now, ← fresh, ← fresh⟩

def run (invocation : Invocation) : IO UInt32 := do
  let workingDir := (Path.mk (← IO.currentDir).toString).steps
  let program := (← IO.appPath.toBaseIO).toOption.map fun path => Path.mk path.toString
  let (tree, _) ← (lookFor workingDir program invocation).run ∅
  if invocation.verbose then
    IO.eprintln ("Tool root " ++ (invocation.home tree program).text)
  let newest := (tree.items.map fun entry => entry.2.modified).foldl max 0
  match (invocation.run program (← moment)).run (Disk.ofTree tree (newest + 1)) with
  | (.error error, disk) =>
    let _ ← (carryOutAll tree (tree.changes disk.tree)).toBaseIO
    IO.eprint error.line
    return error.status.toUInt32
  | (.ok output, disk) =>
    match ← (carryOutAll tree (tree.changes disk.tree)).toBaseIO with
    | .ok () =>
      IO.print output
      return 0
    | .error error =>
      IO.eprintln ("error: " ++ toString error)
      return invocation.command.unwrittenStatus.toUInt32

end Waymark.Live

def main (args : List String) : IO UInt32 := do
  match Waymark.Arguments.read args with
  | .error .help =>
    IO.print Waymark.Usage.text
    return 0
  | .error .usage =>
    IO.eprint Waymark.Usage.text
    return Waymark.Response.usageStatus.toUInt32
  | .ok invocation => Waymark.Live.run invocation
