import Waymark.Command.Arguments
import Waymark.Command.Report
import Waymark.Language.Builtin
import Waymark.Summary.Measure

/-! Running a command: finding the tool's directory, resolving the deployment, the command itself, and
how it ends.
-/

set_option autoImplicit false

namespace Waymark

inductive CommandError where
  | deployment (error : DeploymentError)
  | scan (error : ScanError)
  /-- A stored document, with what was being done with it. -/
  | store (task : String) (error : StoreError)
  | handoff (error : HandoffError)
  | overflow (refused : Overflow)
  deriving DecidableEq

namespace CommandError

def isWriteFailure : StoreError → Bool
  | .write .. => true
  | .transaction .. => true
  | _ => false

def status : CommandError → UInt8
  | .deployment _ => 1
  | .scan (.unreadableRoot ..) => 2
  | .scan (.overflow _) => 101
  | .store _ error => if isWriteFailure error then 3 else 1
  | .handoff (.uncommitted _) => 4
  | .handoff (.storage error) => if isWriteFailure error then 3 else 1
  | .handoff (.overflow _) => 101
  | .handoff _ => 1
  | .overflow _ => 101

def causedBy (message cause : Option String) : Option String := do
  return (← message) ++ ": " ++ (← cause)

/-- The messages of a failure and its causes, where none of the wording is left to others. -/
def message : CommandError → Option String
  | .deployment error => error.message.map ("Failed to resolve deployment: " ++ ·)
  | .scan (.unreadableRoot path error) =>
    causedBy (ScanError.unreadableRoot path error).message error.text
  | .scan error => error.message
  | .store task error => error.message.map (task ++ ": " ++ ·)
  | .handoff (.storage error) => causedBy (HandoffError.storage error).message error.message
  | .handoff (.uncommitted error) =>
    causedBy (HandoffError.uncommitted error).message error.message
  | .handoff error => error.message
  | .overflow refused => some refused.message

def brief : CommandError → String
  | .deployment _ => "Failed to resolve deployment"
  | .scan _ => "Failed to scan the project"
  | .store task _ => task
  | .handoff _ => "Failed to hand over the session"
  | .overflow refused => refused.message

def line (error : CommandError) : String := "error: " ++ error.message.getD error.brief ++ "\n"

end CommandError

abbrev Running := OnDisk CommandError String

namespace Command

def readFailure : String := "Failed to read previous summary"

def snapshotFailure : String := "Failed to snapshot previous summary"

def writeFailure (path : Path) : String := "Failed to write " ++ path.text

/-- Keeps a copy of the summary before where its version stays and a copy is asked for. -/
def snapshot (store : Store) (force : Bool) (prior : Option Summary) (summary : Summary)
    (now : Time) : OnDisk CommandError Unit :=
  if force && prior.any (·.version == summary.version) then do
    let _ ← (store.snapshotSummary now).adapt (.store snapshotFailure)
  else pure ()

def runScan (context : Context) (config : ScanConfig) (force : Bool)
    (verbosity : Option Verbosity) (now : Time) : Running := do
  let tree := (← get).tree
  let scope : Scope :=
    ⟨.load tree context.paths.ignoreFile, Languages.builtin, config.maxFileSize⟩
  let found ← OnDisk.ofResult .scan (Scan.look .clear scope tree context.paths.scanRoot)
  let store := { Store.ofPaths context.paths with historyRetention := config.historyRetention.toNat }
  let prior ← OnDisk.ofResult (.store readFailure) (store.loadSummary tree)
  let summary ← OnDisk.ofResult .overflow
    (Summary.measure found.records prior (verbosity.getD config.verbosity) found.report now)
  snapshot store force prior summary now
  (store.saveSummary summary now).adapt (.store (writeFailure context.paths.summary))
  let missing ← OnDisk.ofResult .overflow
    (MissingDocs.ofRecords found.records config.missingDocsThreshold now)
  (store.saveMissingDocs missing).adapt (.store (writeFailure context.paths.missingDocs))
  return Report.scan summary found.report missing

def runIncoming (sync : Synchronizer) (moment : Moment) : Running := fun disk =>
  let (result, _) := sync.incoming .idle disk.tree moment
  ((result.map Report.incoming).mapError .handoff, disk)

def runOutgoing (sync : Synchronizer) (request : HandoffRequest) (moment : Moment) : Running :=
  fun disk =>
    let (result, _, disk) := sync.outgoing .idle request moment disk
    ((result.map (Report.outgoing · request.outcome)).mapError .handoff, disk)

def run (command : Command) (resolution : Resolution) (moment : Moment) : Running :=
  let context := resolution.context
  let config := resolution.config
  let sync : Synchronizer := ⟨.ofPaths context.paths, context.mode, config.handoff⟩
  match command with
  | .scan force verbosity => runScan context config.scan force verbosity moment.now
  | .incoming => runIncoming sync moment
  | .outgoing request => runOutgoing sync request moment
  | .status => pure (Report.status context)

/-- The status where what a command wrote cannot be carried out. -/
def unwrittenStatus : Command → UInt8
  | .outgoing _ => 4
  | _ => 3

end Command

/-! The tool's directory -/

namespace ToolRoot

def nameStart : String := "arkival"

def isToolName (path : Path) : Bool :=
  (Resolution.lowerName path).any fun name => nameStart.toList.isPrefixOf name.toList

def above? (path : Path) : Option Path := path.ancestors.find? isToolName

def inside? (tree : Tree) (directory : Path) : Option Path :=
  match tree.list directory with
  | .error _ => none
  | .ok held => (held.map fun entry => directory.join entry.1).find? fun path =>
      Resolution.isCanonical path && tree.isDirectory path

/-- The tool's directory where none is given: above the working directory, in it, above the program, or
the working directory. -/
def find (tree : Tree) (workingDir : Path) (program : Option Path) : Path :=
  (above? workingDir <|> inside? tree workingDir <|>
    (program.bind (·.parent?)).bind above?).getD workingDir

end ToolRoot

namespace Invocation

def base (invocation : Invocation) (tree : Tree) : Path :=
  invocation.workingDir.getD tree.workingDir.path

def home (invocation : Invocation) (tree : Tree) (program : Option Path) : Path :=
  invocation.toolRoot.getD (ToolRoot.find tree (invocation.base tree) program)

def resolution (invocation : Invocation) (tree : Tree) (program : Option Path) :
    Except DeploymentError Resolution :=
  Resolution.resolve tree (invocation.home tree program) (invocation.base tree)
    Resolution.defaultDepth

def run (invocation : Invocation) (program : Option Path) (moment : Moment) : Running := do
  let resolution ← OnDisk.ofResult .deployment (invocation.resolution (← get).tree program)
  invocation.command.run resolution moment

end Invocation

structure Response where
  status : UInt8
  output : String
  /-- The line of an error, unless part of its wording is left to others. -/
  complaint : Option String
  deriving DecidableEq

namespace Response

def usageStatus : UInt8 := 2

def ofResult : Except CommandError String → Response
  | .ok output => ⟨0, output, none⟩
  | .error error => ⟨error.status, "", error.message.map fun text => "error: " ++ text ++ "\n"⟩

def ofArguments (args : List String) (program : Option Path) (moment : Moment) (disk : Disk) :
    Response × Disk :=
  match Arguments.read args with
  | .error .help => (⟨0, "", none⟩, disk)
  | .error .usage => (⟨usageStatus, "", none⟩, disk)
  | .ok invocation =>
    let (result, disk) := invocation.run program moment disk
    (ofResult result, disk)

end Response

end Waymark
