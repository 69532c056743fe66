import Waymark.Changelog.Checkpoint
import Waymark.Deployment.Context
import Waymark.Document.Basic
import Waymark.Store.Transaction
import Waymark.Text.Utf8

/-! The stored documents of a deployment. A missing document is no error, and one that cannot be read
is never taken for a missing one. A summary that is replaced by another version is kept in the history,
of which only the newest part stays.
-/

set_option autoImplicit false

namespace Waymark

structure Store where
  paths : OutputPaths
  /-- Attempts at each write and each renaming. -/
  attempts : Nat
  /-- How many earlier summaries are kept. -/
  historyRetention : Nat
  deriving DecidableEq

namespace Store

variable {α : Type}

def defaultAttempts : Nat := 3

def ofPaths (paths : OutputPaths) : Store := ⟨paths, defaultAttempts, 6⟩

def readRaw (tree : Tree) (path : Path) : Except StoreError (Option ByteArray) :=
  (tree.readOptional path).mapError fun fault => .io (.ofFault fault)

def decodeAt (path : Path) (decode : ByteArray → Decoded α) (raw : ByteArray) :
    Except StoreError α :=
  (decode raw).mapError (.schema path)

def load (tree : Tree) (path : Path) (decode : ByteArray → Decoded α) :
    Except StoreError (Option α) := do
  match ← readRaw tree path with
  | some raw => return some (← decodeAt path decode raw)
  | none => return none

def loadSummary (store : Store) (tree : Tree) : Except StoreError (Option Summary) :=
  load tree store.paths.summary Document.readSummary

def loadMissingDocs (store : Store) (tree : Tree) : Except StoreError (Option MissingDocs) :=
  load tree store.paths.missingDocs Document.readMissingDocs

/-- A session of the older form is taken over under the given id. -/
def loadSession (store : Store) (tree : Tree) (adopted : SessionId) :
    Except StoreError (Option Session) :=
  load tree store.paths.session (Document.readSession · adopted)

def loadChangelog (store : Store) (tree : Tree) : Except StoreError (Option Changelog) :=
  load tree store.paths.changelog Document.readChangelog

def loadHandoff (store : Store) (tree : Tree) : Except StoreError (Option Handoff) :=
  load tree store.paths.handoff Document.readHandoff

def loadCheckpointLog (store : Store) (tree : Tree) : Except StoreError (List Char) := do
  return ((← readRaw tree store.paths.checkpointLog).map Text.Utf8.read).getD []

def listCheckpoints (store : Store) (tree : Tree) : Except StoreError (List (List Char)) := do
  return CheckpointLog.headings (← store.loadCheckpointLog tree)

def ask (question : Tree → Except StoreError α) : Storing α := fun disk =>
  (question disk.tree, disk)

def writeRaw (store : Store) (path : Path) (content : ByteArray) : Storing Unit :=
  (Disk.replace store.attempts path content).adapt (.write path)

def writeText (store : Store) (path : Path) (text : String) : Storing Unit :=
  store.writeRaw path text.toUTF8

/-! History -/

def historyPrefix : String := "codebase_summary_v"

def isHistoryName (name : String) : Bool :=
  historyPrefix.toList.isPrefixOf name.toList && ".json".toList.isSuffixOf name.toList

/-- Later changes first, of equal ones the later name first. -/
def newerFirst (a b : String × Item) : Bool :=
  b.2.modified < a.2.modified || (b.2.modified == a.2.modified && decide (b.1 ≤ a.1))

def surplus (retention : Nat) (held : List (String × Item)) : List String :=
  (((held.filter fun entry => isHistoryName entry.1).mergeSort newerFirst).drop retention).map
    Prod.fst

def history (store : Store) (tree : Tree) : Except StoreError (List (String × Item)) :=
  match tree.list store.paths.historyDir with
  | .ok held => .ok held
  | .error .notFound => .ok []
  | .error fault => .error (.io (.ofFault fault))

def removeAll (directory : Path) : List String → OnDisk FileError Unit
  | [] => pure ()
  | name :: rest => do
    Disk.remove (directory.join name)
    removeAll directory rest

def pruneHistory (store : Store) : Storing Unit := do
  let held ← ask store.history
  (removeAll store.paths.historyDir (surplus store.historyRetention held)).adapt .io

def historyPath (store : Store) (version : Version) (now : Time) : Path :=
  store.paths.historyDir.join
    (historyPrefix ++ version.toText ++ "_" ++ String.ofList now.stamp ++ ".json")

def archiveSummary (store : Store) (raw : ByteArray) (version : Version) (now : Time) :
    Storing Unit := do
  store.writeRaw (store.historyPath version now) raw
  store.pruneHistory

def snapshotSummary (store : Store) (now : Time) : Storing Bool := do
  let path := store.paths.summary
  match ← ask (readRaw · path) with
  | none => return false
  | some raw =>
    let prior ← ask fun _ => decodeAt path Document.readSummary raw
    store.archiveSummary raw prior.version now
    return true

/-- Replaces the summary. The one before is archived if it is of another version and can be read. -/
def saveSummary (store : Store) (summary : Summary) (now : Time) : Storing Unit := do
  let path := store.paths.summary
  let prior ← ask (readRaw · path)
  match prior.map fun raw => (raw, Document.readSummary raw) with
  | some (raw, .ok prior) =>
    if prior.version ≠ summary.version then store.archiveSummary raw prior.version now
  | _ => pure ()
  store.writeText path summary.write

def saveMissingDocs (store : Store) (report : MissingDocs) : Storing Unit :=
  store.writeText store.paths.missingDocs report.write

/-! Handoff -/

/-- What one handoff writes. -/
structure Batch where
  session : Session
  handoff : Handoff
  changelog : Changelog
  /-- Entries taken out of the changelog. -/
  archived : List ChangelogEntry
  checkpoint : Checkpoint
  checkpointRetention : Nat
  deriving DecidableEq

def archivePath (store : Store) (version : Option Version) (now : Time) : Path :=
  store.paths.archiveDir.join ("changelog_archive_" ++ String.ofList now.stamp ++ "_v" ++
    (version.map Version.toText).getD "unknown" ++ ".json")

def Batch.archive? (batch : Batch) : Option ChangelogArchive :=
  if batch.archived.isEmpty then none
  else some ⟨batch.checkpoint.timestamp, batch.checkpoint.projectVersion,
    Count.ofLength batch.archived, batch.archived⟩

def stagedFiles (store : Store) (batch : Batch) (log : List Char) (now : Time) : List Staged :=
  let text (path : Path) (content : String) : Staged := ⟨path, content.toUTF8⟩
  [text store.paths.session batch.session.write, text store.paths.handoff batch.handoff.write,
    text store.paths.changelog batch.changelog.write] ++
  (batch.archive?.toList.map fun archive =>
    text (store.archivePath archive.projectVersion now) archive.write) ++
  [text store.paths.checkpointLog (String.ofList log)]

/-- Writes all documents of a handoff or none of them. -/
def commitHandoff (store : Store) (batch : Batch) (now : Time) : Storing Unit := do
  let log ← ask store.loadCheckpointLog
  let log := CheckpointLog.prepend log batch.checkpoint batch.checkpointRetention
  Transaction.commit store.attempts (store.stagedFiles batch log now)

end Store

end Waymark
