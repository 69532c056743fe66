import Waymark.Handoff.Documentation
import Waymark.Handoff.Phase
import Waymark.Summary.MissingDocs

/-! What an incoming session is told about the one before it and about the documents it finds. -/

set_option autoImplicit false

namespace Waymark

namespace Documentation

def ofStored (summaryVersion : Option Version) (changelog : Option Changelog)
    (missing : Option MissingDocs) : Documentation where
  summaryPresent := summaryVersion.isSome
  changelogPresent := changelog.isSome
  summaryVersion
  changelogProjectVersion := changelog.bind fun log => log.entries.head?.bind (·.projectVersion)
  undocumentedFiles := missing.elim [] fun report => report.directories.values.flatten.map (·.path)
  undocumentedFunctions := missing.elim 0 (·.totalUndocumented)

end Documentation

structure Briefing where
  priorityItems : List String
  previousSummary : Option String
  previousOutcome : Option Outcome
  changelogVersion : Version
  /-- Summaries of the bugs among the newest changes. -/
  unresolved : List String
  documentation : Documentation
  deriving DecidableEq

namespace Briefing

/-- How many changes are searched for bugs. -/
def lookback : Nat := 5

def ofInherited (inherited : Inherited) (documentation : Documentation) : Briefing where
  priorityItems := inherited.previous.elim [] (·.priorityItems)
  previousSummary := inherited.previous.bind (·.lastSummary)
  previousOutcome := inherited.previous.map (·.outcome)
  changelogVersion := inherited.changelog.version
  unresolved := (inherited.changelog.recent .bug lookback).map (·.summary)
  documentation

end Briefing

end Waymark
