import Waymark.Proofs.Changelog
import Waymark.Proofs.Document.Kinds
import Waymark.Proofs.Fallible
import Waymark.Summary.Measure

/-! Summing up the same records again. The summary before has the same counts, so its version stays, and the
times are all that differs.
-/

set_option autoImplicit false

namespace Waymark

theorem Count.add_le_add {a b c d x y : Count} (first : a ≤ b) (second : c ≤ d) (lower : Count.add a c = .ok x)
    (upper : Count.add b d = .ok y) : x ≤ y := by
  have lower := (Count.add_ok lower).2
  have upper := (Count.add_ok upper).2
  rw [UInt64.le_iff_toNat_le] at first second ⊢
  omega

theorem mem_insertEntry {α : Type} {name : String} {value : α} {entries : List (String × α)} {entry : String × α}
    (among : entry ∈ insertEntry name value entries) : entry = (name, value) ∨ entry ∈ entries := by
  induction entries with
  | nil => exact .inl (List.mem_singleton.1 among)
  | cons first rest ih =>
    obtain ⟨other, old⟩ := first
    unfold insertEntry at among
    split at among
    · exact (List.mem_cons.1 among)
    · split at among
      · exact (List.mem_cons.1 among).imp_right (List.mem_cons_of_mem _)
      · rcases List.mem_cons.1 among with rfl | among
        · exact .inr List.mem_cons_self
        · exact (ih among).imp_right (List.mem_cons_of_mem _)

structure Tally.Covered (tally : Tally) : Prop where
  total : tally.documented ≤ tally.functions
  details : ∀ entry ∈ tally.details.entries, entry.2.documented ≤ entry.2.functions

def FileRecord.Covered (record : FileRecord) : Prop := record.documented ≤ record.functions

variable {tally after : Tally} {record : FileRecord} {records : List FileRecord} {prior : Option Summary}
  {verbosity : Verbosity} {report : RunReport} {now later : Time} {summary : Summary} {threshold : Count}
  {missing : MissingDocs}

theorem Tally.Covered.detail (covered : tally.Covered) (language : String) :
    ((tally.details.get? language).getD default).documented ≤
      ((tally.details.get? language).getD default).functions := by
  cases found : tally.details.get? language with
  | none => exact UInt64.le_refl _
  | some detail =>
    obtain ⟨before, behind, same, -⟩ := List.lookup_eq_some_iff.1 found
    exact covered.details (language, detail) (by rw [same]; simp)

structure LanguageCount.Grows (old : LanguageCount) (record : FileRecord) (new : LanguageCount) : Prop where
  files : old.files.next = .ok new.files
  functions : old.functions.add record.functions = .ok new.functions

structure LanguageDetail.Grows (old : LanguageDetail) (record : FileRecord) (new : LanguageDetail) : Prop where
  files : old.files.next = .ok new.files
  functions : old.functions.add record.functions = .ok new.functions
  documented : old.documented.add record.documented = .ok new.documented
  lines : old.lines.add record.lines = .ok new.lines
  coverage : new.coverage = old.coverage

/-- What a record adds to a tally, each sum within a counter. -/
structure Tally.Grows (old : Tally) (record : FileRecord) (new : Tally) : Prop where
  functions : old.functions.add record.functions = .ok new.functions
  documented : old.documented.add record.documented = .ok new.documented
  languages : ∃ count, ((old.languages.get? record.language).getD default).Grows record count ∧
    new.languages = old.languages.insert record.language count
  details : ∃ detail, ((old.details.get? record.language).getD default).Grows record detail ∧
    new.details = old.details.insert record.language detail

theorem Tally.add_ok (added : tally.add record = .ok after) : tally.Grows record after := by
  unfold Tally.add at added
  obtain ⟨functions, sum, added⟩ := Fallible.bind_ok added
  obtain ⟨documented, part, added⟩ := Fallible.bind_ok added
  obtain ⟨files, counted, added⟩ := Fallible.bind_ok added
  obtain ⟨inLanguage, countSum, added⟩ := Fallible.bind_ok added
  obtain ⟨detailFiles, detailed, added⟩ := Fallible.bind_ok added
  obtain ⟨detailFunctions, detailSum, added⟩ := Fallible.bind_ok added
  obtain ⟨detailDocumented, detailPart, added⟩ := Fallible.bind_ok added
  obtain ⟨lines, lineSum, added⟩ := Fallible.bind_ok added
  cases added
  refine ⟨sum, part, ⟨_, ⟨counted, countSum⟩, rfl⟩, ⟨_, ⟨detailed, detailSum, detailPart, lineSum, ?_⟩, rfl⟩⟩
  rfl

theorem Tally.add_of_grows (grows : tally.Grows record after) : tally.add record = .ok after := by
  obtain ⟨functions, documented, languages, details⟩ := after
  obtain ⟨sum, part, ⟨count, counted, rfl⟩, detail, detailed, rfl⟩ := grows
  obtain ⟨files, inLanguage⟩ := counted
  obtain ⟨detailFiles, detailSum, detailPart, lineSum, coverage⟩ := detailed
  simp only [add, sum, part, files, inLanguage, detailFiles, detailSum, detailPart, lineSum, ← coverage, bind,
    Except.bind, pure, Except.pure]

theorem Tally.Covered.grows (covered : tally.Covered) (part : record.Covered) (grows : tally.Grows record after) :
    after.Covered := by
  obtain ⟨detail, grown, details⟩ := grows.details
  constructor
  · exact Count.add_le_add covered.total part grows.documented grows.functions
  · intro entry among
    rw [details] at among
    rcases mem_insertEntry among with rfl | among
    · exact Count.add_le_add (covered.detail record.language) part grown.documented grown.functions
    · exact covered.details entry among

theorem Tally.covered_of_records (parts : ∀ record ∈ records, record.Covered)
    (summed : Tally.ofRecords records = .ok after) : after.Covered := by
  refine Fallible.foldlM_ok (motive := fun done tally => (∀ record ∈ done, record.Covered) → tally.Covered) ?_ ?_ summed parts
  · intro done tally record next covered added parts
    refine (covered fun record among => parts record (List.mem_append_left _ among)).grows ?_ (Tally.add_ok added)
    exact parts record (List.mem_append_right _ List.mem_cons_self)
  · exact fun _ => ⟨UInt64.le_refl _, fun _ among => absurd among List.not_mem_nil⟩

namespace Summary

theorem measured_of_measure (parts : ∀ record ∈ records, record.Covered)
    (summed : measure records prior verbosity report now = .ok summary) : summary.Measured := by
  obtain ⟨tally, tallied, summed⟩ := Fallible.bind_ok summed
  have covered := Tally.covered_of_records parts tallied
  obtain ⟨version, -, summed⟩ := Fallible.bind_ok summed
  cases summed
  constructor
  · exact ⟨_, _, covered.total, rfl⟩
  · intro details there entry among
    dsimp only at there
    split at there
    · cases there
      obtain ⟨before, listed, rfl⟩ := List.mem_map.1 among
      exact ⟨_, _, covered.details before listed, rfl⟩
    · cases there

theorem runReport_of_measure (summed : measure records prior verbosity report now = .ok summary) :
    summary.runReport = if verbosity == .standard then some report else none := by
  obtain ⟨tally, -, summed⟩ := Fallible.bind_ok summed
  obtain ⟨version, -, summed⟩ := Fallible.bind_ok summed
  cases summed
  rfl

theorem eq_report_of_measure {told : RunReport} (summed : measure records prior verbosity report now = .ok summary)
    (among : told ∈ summary.runReport) : told = report := by
  rw [runReport_of_measure summed] at among
  split at among
  · exact (Option.some.inj among).symm
  · cases among

theorem version_of_measure (summed : measure records prior verbosity report now = .ok summary) :
    nextVersion prior summary = .ok summary.version := by
  obtain ⟨tally, -, summed⟩ := Fallible.bind_ok summed
  obtain ⟨version, follows, summed⟩ := Fallible.bind_ok summed
  cases summed
  exact follows

theorem measure_again (summed : measure records prior verbosity report now = .ok summary) (other : RunReport)
    (later : Time) : measure records (some summary) verbosity other later =
      .ok { summary with generatedAt := later, runReport := summary.runReport.map fun _ => other } := by
  obtain ⟨tally, tallied, summed⟩ := Fallible.bind_ok summed
  obtain ⟨version, -, summed⟩ := Fallible.bind_ok summed
  cases summed
  unfold measure
  rw [tallied]
  simp only [bind, Except.bind, nextVersion, sameCounts, BEq.rfl, Bool.and_self, if_true]
  cases verbosity <;> rfl

end Summary

namespace MissingDocs

theorem ofRecords_again (listed : ofRecords records threshold now = .ok missing) (later : Time) :
    ofRecords records threshold later = .ok { missing with generatedAt := later } := by
  -- No step looks at the time.
  have step : ∀ (report : MissingDocs) (record : FileRecord), add { report with generatedAt := later } record =
      (add report record).map fun added => { added with generatedAt := later } := by
    intro report record
    unfold add
    dsimp only
    split
    · rfl
    · cases report.totalFiles.next with
      | error refused => rfl
      | ok files => cases report.totalUndocumented.add record.undocumented <;> rfl
  have run : ∀ start : MissingDocs, records.foldlM add start = .ok missing →
      records.foldlM add { start with generatedAt := later } = .ok { missing with generatedAt := later } := by
    clear listed
    induction records with
    | nil =>
      intro start listed
      cases listed
      rfl
    | cons record rest ih =>
      intro start listed
      rw [List.foldlM_cons] at listed ⊢
      obtain ⟨next, added, listed⟩ := Fallible.bind_ok listed
      rw [step, added]
      exact ih next listed
  exact run _ listed

end MissingDocs

end Waymark
