import Waymark.Changelog.Basic
import Waymark.Json.Printer
import Waymark.Session.Basic
import Waymark.Summary.MissingDocs

/-! The stored form of the documents. Every document is an object whose first member is its tag. -/

set_option autoImplicit false

namespace Waymark

def Version.toJson (v : Version) : Json := .text v.toText

def Time.toJson (t : Time) : Json := .text t.toText

def SessionId.toJson (id : SessionId) : Json := .text id.toText

def texts (items : List String) : Json := Json.ofList .text items

namespace LanguageCount

def toJson (count : LanguageCount) : Json :=
  .object [("files", .count count.files), ("functions", .count count.functions)]

end LanguageCount

namespace LanguageDetail

def toJson (detail : LanguageDetail) : Json :=
  .object [("files", .count detail.files), ("functions", .count detail.functions),
    ("documented", .count detail.documented), ("coverage_pct", .float detail.coverage),
    ("lines_of_code", .count detail.lines)]

end LanguageDetail

namespace RunReport

def toJson (report : RunReport) : Json :=
  .object [("files_scanned", .count report.filesScanned),
    ("skipped_binary", .count report.skippedBinary),
    ("skipped_unreadable", .count report.skippedUnreadable),
    ("skipped_oversized", .count report.skippedOversized),
    ("ignore_rule_errors", .count report.ruleErrors),
    ("directories_pruned", .count report.directoriesPruned)]

end RunReport

namespace Summary

/-- The members in their order; details and report only where there are any. -/
def members (summary : Summary) : List (String × Json) :=
  [("version", summary.version.toJson), ("generated_at", summary.generatedAt.toJson),
    ("total_files", .count summary.totalFiles), ("total_functions", .count summary.totalFunctions),
    ("documented_functions", .count summary.documentedFunctions),
    ("coverage_pct", .float summary.coverage),
    ("language_breakdown", Json.ofTable LanguageCount.toJson summary.languages),
    ("generator_attribution", .text summary.attribution),
    ("verbosity", .text summary.verbosity.toText)] ++
  (summary.details.toList.map fun details =>
    ("language_details", Json.ofTable LanguageDetail.toJson details)) ++
  (summary.runReport.toList.map fun report => ("run_report", report.toJson))

end Summary

namespace MissingDocs

def fileToJson (file : MissingFile) : Json :=
  .object [("path", .text file.path), ("undocumented", .count file.undocumented),
    ("total", .count file.total)]

def members (report : MissingDocs) : List (String × Json) :=
  [("generated_at", report.generatedAt.toJson), ("threshold", .count report.threshold),
    ("total_files", .count report.totalFiles),
    ("total_undocumented", .count report.totalUndocumented),
    ("directories", Json.ofTable (Json.ofList fileToJson) report.directories)]

end MissingDocs

namespace ChangelogEntry

def toJson (entry : ChangelogEntry) : Json :=
  .object [("id", .text entry.id), ("version", entry.version.toJson),
    ("date", entry.date.toJson), ("category", .text entry.category.toText),
    ("summary", .text entry.summary),
    ("project_version", Json.ofOption Version.toJson entry.projectVersion)]

end ChangelogEntry

namespace Changelog

def statisticsToJson (statistics : ChangelogStatistics) : Json :=
  .object [("total_entries", .count statistics.totalEntries),
    ("entries_by_category", Json.ofTable .count statistics.byCategory),
    ("archived_entries", .count statistics.archivedEntries)]

def members (log : Changelog) : List (String × Json) :=
  [("changelog_version", log.version.toJson),
    ("last_updated", Json.ofOption Time.toJson log.lastUpdated),
    ("entries", Json.ofList ChangelogEntry.toJson log.entries),
    ("statistics", statisticsToJson log.statistics), ("sequence", .count log.sequence)]

end Changelog

namespace ChangelogArchive

def members (archive : ChangelogArchive) : List (String × Json) :=
  [("archived_at", archive.archivedAt.toJson),
    ("project_version", Json.ofOption Version.toJson archive.projectVersion),
    ("archived_entries_count", .count archive.count),
    ("entries", Json.ofList ChangelogEntry.toJson archive.entries)]

end ChangelogArchive

namespace Session

def members (session : Session) : List (String × Json) :=
  [("session_id", session.id.toJson), ("started_at", session.startedAt.toJson),
    ("completed_at", Json.ofOption Time.toJson session.completedAt),
    ("completed_tasks", texts session.completedTasks),
    ("priority_items_for_next", texts session.priorityItems),
    ("deployment_mode", .text session.mode.toText), ("outcome", .text session.outcome.toText),
    ("last_summary", Json.ofOption .text session.lastSummary),
    ("project_version", Json.ofOption Version.toJson session.projectVersion)]

end Session

namespace Handoff

def members (handoff : Handoff) : List (String × Json) :=
  [("generated_at", handoff.generatedAt.toJson), ("session_id", handoff.sessionId.toJson),
    ("outcome", .text handoff.outcome.toText), ("session_summary", .text handoff.summary),
    ("next_agent_instructions", texts handoff.instructions),
    ("priority_actions", texts handoff.priorityActions),
    ("completed_tasks", texts handoff.completedTasks),
    ("deployment_mode", .text handoff.mode.toText),
    ("project_version", Json.ofOption Version.toJson handoff.projectVersion),
    ("changelog_version", handoff.changelogVersion.toJson)]

end Handoff

inductive DocumentKind where
  | summary
  | changelog
  | session
  | handoff
  | missingDocs
  | archive
  deriving Repr, DecidableEq

def DocumentKind.tag : DocumentKind → String
  | .summary => "project_summary/v2"
  | .changelog => "changelog/v2"
  | .session => "session_state/v2"
  | .handoff => "agent_handoff/v1"
  | .missingDocs => "missing_docs/v1"
  | .archive => "changelog_archive/v1"

def DocumentKind.tagged (kind : DocumentKind) (members : List (String × Json)) : Json :=
  .object (("schema", .text kind.tag) :: members)

def DocumentKind.write (kind : DocumentKind) (members : List (String × Json)) : String :=
  (kind.tagged members).prettyText

end Waymark
