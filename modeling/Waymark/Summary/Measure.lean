import Waymark.Summary.Basic

/-! Summing up the records of a scan. The version of a first summary is 1.0.0; a later summary keeps
the version of the one before it while the totals stay, and else raises its patch number.
-/

set_option autoImplicit false

namespace Waymark

/-- Totals over the records seen so far, and the same by language. -/
structure Tally where
  functions : Count
  documented : Count
  languages : Table LanguageCount
  details : Table LanguageDetail

namespace Tally

def empty : Tally := ⟨0, 0, .empty, .empty⟩

def add (tally : Tally) (record : FileRecord) : Except Overflow Tally := do
  let count := (tally.languages.get? record.language).getD default
  let detail := (tally.details.get? record.language).getD default
  return {
    functions := ← tally.functions.add record.functions
    documented := ← tally.documented.add record.documented
    languages := tally.languages.insert record.language
      { files := ← count.files.next, functions := ← count.functions.add record.functions }
    details := tally.details.insert record.language
      { files := ← detail.files.next
        functions := ← detail.functions.add record.functions
        documented := ← detail.documented.add record.documented
        coverage := detail.coverage
        lines := ← detail.lines.add record.lines } }

def ofRecords (records : List FileRecord) : Except Overflow Tally := records.foldlM add empty

end Tally

namespace LanguageDetail

def withCoverage (detail : LanguageDetail) : LanguageDetail :=
  { detail with coverage := Waymark.coverage detail.documented detail.functions }

end LanguageDetail

namespace Summary

def generator : String := "arkival-scan 0.1.0"

def nextVersion (prior : Option Summary) (summary : Summary) : Except Overflow Version :=
  match prior with
  | none => .ok .first
  | some prior => if prior.sameCounts summary then .ok prior.version else prior.version.bumpPatch

/-- The summary of the records; only the standard verbosity adds details and the run report. -/
def measure (records : List FileRecord) (prior : Option Summary) (verbosity : Verbosity)
    (report : RunReport) (now : Time) : Except Overflow Summary := do
  let tally ← Tally.ofRecords records
  let full := verbosity == .standard
  let summary : Summary := {
    version := .first
    generatedAt := now
    totalFiles := Count.ofLength records
    totalFunctions := tally.functions
    documentedFunctions := tally.documented
    coverage := Waymark.coverage tally.documented tally.functions
    languages := tally.languages
    attribution := generator
    verbosity
    details := if full then some (tally.details.map (·.withCoverage)) else none
    runReport := if full then some report else none }
  return { summary with version := ← nextVersion prior summary }

end Summary

end Waymark
