import Waymark.Config
import Waymark.Deployment.Mode
import Waymark.Path

/-! Where a deployment reads and writes: the roots of the tool, the host and the outputs, and every
path that is derived from them.
-/

set_option autoImplicit false

namespace Waymark

structure HostMetadata where
  name : String
  version : String
  technologies : List String
  description : Option String
  remote : Option String
  deriving DecidableEq

namespace HostMetadata

def unknown : String := "unknown"

/-- What is known of a host that says nothing. -/
def placeholder (hostRoot : Path) : HostMetadata :=
  ⟨hostRoot.fileName?.getD unknown, unknown, [], none, none⟩

end HostMetadata

structure OutputPaths where
  summary : Path
  changelog : Path
  session : Path
  handoff : Path
  missingDocs : Path
  historyDir : Path
  checkpointLog : Path
  archiveDir : Path
  ignoreFile : Path
  scanRoot : Path
  deriving DecidableEq

namespace OutputPaths

def derive (outputRoot hostRoot : Path) : OutputPaths :=
  let state := outputRoot.join "codebase_summary"
  { summary := outputRoot.join "codebase_summary.json"
    changelog := outputRoot.join "changelog_summary.json"
    session := state.join "session_state.json"
    handoff := state.join "agent_handoff.json"
    missingDocs := state.join "missing_breadcrumbs.json"
    historyDir := state.join "history"
    checkpointLog := (outputRoot.join "checkpoints").join "checkpoint_log.md"
    archiveDir := outputRoot.join "changelog_archives"
    ignoreFile := hostRoot.join Config.ignoreFileName
    scanRoot := hostRoot }

def entries (paths : OutputPaths) : List (String × Path) :=
  [("summary", paths.summary), ("changelog", paths.changelog), ("session_state", paths.session),
   ("handoff", paths.handoff), ("missing_docs_report", paths.missingDocs),
   ("history_dir", paths.historyDir), ("checkpoint_log", paths.checkpointLog),
   ("changelog_archive_dir", paths.archiveDir), ("ignore_file", paths.ignoreFile),
   ("scan_root", paths.scanRoot)]

end OutputPaths

structure Context where
  mode : Mode
  toolRoot : Path
  hostRoot : Path
  outputRoot : Path
  metadata : Option HostMetadata
  paths : OutputPaths
  deriving DecidableEq

namespace Context

/-- The tool works on its own directory. -/
def standalone (toolRoot : Path) : Context :=
  ⟨.standalone, toolRoot, toolRoot, toolRoot, none, .derive toolRoot toolRoot⟩

/-- The tool works on a host; outputs go to the directory of the tool's name in the host. -/
def attached (toolRoot hostRoot : Path) (metadata : HostMetadata) : Context :=
  let outputRoot := toolRoot.fileName?.elim hostRoot hostRoot.join
  ⟨.attached, toolRoot, hostRoot, outputRoot, some metadata, .derive outputRoot hostRoot⟩

end Context

end Waymark
