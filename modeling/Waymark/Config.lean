import Waymark.Count
import Waymark.Deployment.Mode
import Waymark.Json.Reader
import Waymark.Json.Shape
import Waymark.Summary.Verbosity

/-! The configuration. Every setting has a default, settings that are not known are skipped, and
no setting may be given twice.
-/

set_option autoImplicit false

namespace Waymark

structure ScanConfig where
  maxFileSize : Count
  missingDocsThreshold : Count
  verbosity : Verbosity
  historyRetention : Count
  deriving DecidableEq

def ScanConfig.default : ScanConfig := ⟨5242880, 0, .standard, 6⟩

structure HandoffConfig where
  checkpointRetention : Count
  changelogRetention : Count
  deriving DecidableEq

def HandoffConfig.default : HandoffConfig := ⟨20, 25⟩

structure Config where
  /-- Told to the reader of the file; nothing depends on it. -/
  mode : Option Mode
  /-- Relative to the directory of the configuration. -/
  hostRoot : Option String
  toolDirectory : Option String
  scan : ScanConfig
  handoff : HandoffConfig
  deriving DecidableEq

namespace Config

open Json

def default : Config := ⟨none, none, none, .default, .default⟩

def fileName : String := "arkival.config.json"

def ignoreFileName : String := ".scanignore"

def scanShape : Shape ScanConfig :=
  ScanConfig.mk <$> .withDefault "max_file_size_bytes" toCount ScanConfig.default.maxFileSize <*>
    .withDefault "missing_docs_threshold" toCount ScanConfig.default.missingDocsThreshold <*>
    .withDefault "verbosity" (toVariant Verbosity.names isNull) ScanConfig.default.verbosity <*>
    .withDefault "history_retention" toCount ScanConfig.default.historyRetention

def handoffShape : Shape HandoffConfig :=
  HandoffConfig.mk <$>
    .withDefault "checkpoint_retention" toCount HandoffConfig.default.checkpointRetention <*>
    .withDefault "changelog_retention" toCount HandoffConfig.default.changelogRetention

def shape : Shape Config :=
  Config.mk <$> .omissible "deployment_mode" (toVariant Mode.names isNull) <*>
    .omissible "host_root" toText <*> .omissible "tool_directory" toText <*>
    .withDefault "scan" scanShape.decode .default <*>
    .withDefault "handoff" handoffShape.decode .default

def selection : Selection :=
  .record [("deployment_mode", .value), ("host_root", .value), ("tool_directory", .value),
    ("scan", .record [("max_file_size_bytes", .value), ("missing_docs_threshold", .value),
      ("verbosity", .value), ("history_retention", .value)]),
    ("handoff", .record [("checkpoint_retention", .value), ("changelog_retention", .value)])]

def read? (text : List Char) : Option Config := do
  let draft ← draft? text
  (shape.decode (← draft.select? maxDepth selection)).toOption

end Config

end Waymark
