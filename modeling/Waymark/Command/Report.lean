import Waymark.Deployment.Resolution
import Waymark.Handoff.Synchronizer
import Waymark.Scan.Basic

/-! What the commands print. -/

set_option autoImplicit false

namespace Waymark.Report

def number (n : Count) : String := String.ofList n.text

/-- A percentage to one place, which is how it is kept. -/
def percent (x : Float) : String := String.ofList (Json.floatText x)

def padded (width : Nat) (label : String) : String :=
  label ++ String.ofList (List.replicate (width - label.length) ' ')

def lines (texts : List String) : String := String.join (texts.map (· ++ "\n"))

/-- A titled list; an empty one is not printed. -/
def list (title : String) (items : List String) : List String :=
  if items.isEmpty then [] else (title ++ ":") :: items.map ("  - " ++ ·)

def labelWidth : Nat := 22

def host (metadata : HostMetadata) : List String :=
  ["Host:        " ++ metadata.name ++ " (" ++ metadata.version ++ ")"] ++
  (if metadata.technologies.isEmpty then []
    else ["Tech stack:  " ++ ", ".intercalate metadata.technologies]) ++
  (metadata.remote.toList.map ("Remote:      " ++ ·))

def status (context : Context) : String :=
  lines (["Mode:        " ++ context.mode.toText, "Tool root:   " ++ context.toolRoot.text,
      "Host root:   " ++ context.hostRoot.text, "Output root: " ++ context.outputRoot.text] ++
    context.metadata.toList.flatMap host ++ [""] ++
    context.paths.entries.map fun entry =>
      "  " ++ padded labelWidth entry.1 ++ " " ++ entry.2.text)

def scan (summary : Summary) (report : RunReport) (missing : MissingDocs) : String :=
  lines (["Summary v" ++ summary.version.toText ++ ": " ++ number summary.totalFiles ++ " files, " ++
      number summary.documentedFunctions ++ "/" ++ number summary.totalFunctions ++
      " functions documented (" ++ percent summary.coverage ++ "%)",
    "Skipped: " ++ number report.skippedBinary ++ " binary, " ++
      number report.skippedUnreadable ++ " unreadable, " ++ number report.skippedOversized ++
      " oversized; " ++ number report.directoriesPruned ++ " directories pruned; " ++
      number report.ruleErrors ++ " ignore rule errors"] ++
    (if missing.isEmpty then []
      else [number missing.totalFiles ++ " files with undocumented functions in " ++
        number (Count.ofLength missing.directories.entries) ++ " directories"]))

def presence (flag : Bool) : String := if flag then "ok" else "missing"

def versionText (version : Option Version) : String := (version.map Version.toText).getD "none"

def versions (d : Documentation) : List String :=
  if !(d.summaryPresent && d.changelogPresent) then []
  else if d.versionsConsistent then
    ["  versions:  consistent (v" ++ versionText d.summaryVersion ++ ")"]
  else
    ["  versions:  summary v" ++ versionText d.summaryVersion ++
      ", last changelog entry recorded at " ++ versionText d.changelogProjectVersion]

def markers (d : Documentation) : String :=
  if d.undocumentedFiles.isEmpty then "  markers:   every detected function documented"
  else
    "  markers:   " ++ number d.undocumentedFunctions ++ " undocumented functions in " ++
      number (Count.ofLength d.undocumentedFiles) ++ " files"

def documentation (d : Documentation) : List String :=
  ["Documentation:", "  summary:   " ++ presence d.summaryPresent,
    "  changelog: " ++ presence d.changelogPresent] ++ versions d ++ [markers d]

def previous (briefing : Briefing) : String :=
  match briefing.previousSummary, briefing.previousOutcome with
  | some summary, some outcome => "Previous session (" ++ outcome.toText ++ "): " ++ summary
  | _, _ => "No previous session"

def incoming (briefing : Briefing) : String :=
  lines (["Changelog version: " ++ briefing.changelogVersion.toText, previous briefing] ++
    list "Priority items" briefing.priorityItems ++ list "Open bugs" briefing.unresolved ++
    documentation briefing.documentation)

def outgoing (report : HandoffReport) (outcome : Outcome) : String :=
  lines (["Session " ++ report.sessionId.toText ++ " handed off (" ++ outcome.toText ++ ")",
      "Changelog version: " ++ report.changelogVersion.toText] ++
    (if report.archived = 0 then []
      else ["Archived " ++ number report.archived ++ " changelog entries"]) ++
    list "Priority items for next session" report.priorityItems)

end Waymark.Report
