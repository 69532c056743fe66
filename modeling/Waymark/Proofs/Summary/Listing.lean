import Waymark.Proofs.Summary.Measure
import Waymark.Proofs.Table

/-! What a report lists. Every file with more undocumented declarations than the threshold is listed once,
whatever directory it is in, and no other file is; the totals of a summary tell whether there is anything
undocumented at all.
-/

set_option autoImplicit false

namespace Waymark

variable {α : Type}

theorem perm_insertEntry {name : String} (value : α) {entries : List (String × List α)}
    (ascending : Ascending entries) :
    ((insertEntry name (((entries.lookup name).getD []) ++ [value]) entries).map Prod.snd).flatten.Perm
      (value :: (entries.map Prod.snd).flatten) := by
  induction entries with
  | nil => exact .refl _
  | cons entry rest ih =>
    obtain ⟨other, old⟩ := entry
    have later := (List.pairwise_cons.1 ascending).2
    unfold insertEntry
    split
    · rename_i before
      -- All names are behind this one, which is therefore new.
      rw [lookup_eq_none_of_lt ascending before]
      exact .refl _
    · split
      · rename_i same
        subst same
        rw [lookup_first, if_pos rfl]
        simp only [Option.getD_some, List.map_cons, List.flatten_cons, List.append_assoc, List.singleton_append]
        exact List.perm_middle
      · rename_i apart
        rw [lookup_first, if_neg apart, List.map_cons, List.map_cons, List.flatten_cons, List.flatten_cons]
        exact ((ih later).append_left old).trans List.perm_middle

namespace MissingDocs

variable {report after missing : MissingDocs} {record : FileRecord} {records : List FileRecord}
  {threshold : Count} {now : Time}

def files (report : MissingDocs) : List MissingFile := report.directories.values.flatten

def listing (record : FileRecord) : MissingFile := ⟨record.path, record.undocumented, record.functions⟩

theorem not_listed_iff : record.undocumented = 0 ∨ record.undocumented ≤ threshold ↔
    record.undocumented ≤ threshold := by
  constructor
  · rintro (none | few)
    · rw [none]
      exact UInt64.zero_le
    · exact few
  · exact .inr

theorem files_add (added : report.add record = .ok after) : after.threshold = report.threshold ∧
    after.files.Perm (if record.undocumented ≤ report.threshold then report.files
      else listing record :: report.files) := by
  unfold add at added
  simp only [Bool.or_eq_true, decide_eq_true_eq, not_listed_iff] at added
  by_cases few : record.undocumented ≤ report.threshold
  · rw [if_pos few] at added
    cases added
    rw [if_pos few]
    exact ⟨rfl, .refl _⟩
  · rw [if_neg few] at added
    obtain ⟨files, -, added⟩ := Fallible.bind_ok added
    obtain ⟨undocumented, -, added⟩ := Fallible.bind_ok added
    cases added
    rw [if_neg few]
    exact ⟨rfl, perm_insertEntry (listing record) report.directories.ascending⟩

theorem files_ofRecords (listed : ofRecords records threshold now = .ok missing) :
    missing.files.Perm ((records.filter fun record => ¬record.undocumented ≤ threshold).map listing) := by
  have run : missing.threshold = threshold ∧
      missing.files.Perm ((records.filter fun record => ¬record.undocumented ≤ threshold).map listing) := by
    refine Fallible.foldlM_ok (motive := fun done report => report.threshold = threshold ∧
      report.files.Perm ((done.filter fun record => ¬record.undocumented ≤ threshold).map listing)) ?_ ?_ listed
    · rintro done report record next ⟨same, files⟩ added
      obtain ⟨kept, more⟩ := files_add added
      rw [same] at kept more
      refine ⟨kept, more.trans ?_⟩
      rw [List.filter_append, List.map_append]
      by_cases few : record.undocumented ≤ threshold
      · rw [if_pos few, List.filter_cons_of_neg (by simpa using few), List.filter_nil, List.map_nil, List.append_nil]
        exact files
      · rw [if_neg few, List.filter_cons_of_pos (by simpa using few), List.filter_nil]
        exact (files.cons _).trans (List.perm_append_singleton _ _).symm
    · exact ⟨rfl, .refl _⟩
  exact run.2

theorem files_eq_nil_iff (listed : ofRecords records threshold now = .ok missing) :
    missing.files = [] ↔ ∀ record ∈ records, record.undocumented ≤ threshold := by
  have perm := files_ofRecords listed
  constructor
  · intro nothing record among
    by_contra beyond
    rw [nothing, List.nil_perm, List.map_eq_nil_iff, List.filter_eq_nil_iff] at perm
    exact perm record among (by simpa using beyond)
  · intro few
    have none : records.filter (fun record => ¬record.undocumented ≤ threshold) = [] :=
      List.filter_eq_nil_iff.2 fun record among => by simpa using few record among
    rw [none, List.map_nil] at perm
    exact perm.eq_nil

end MissingDocs

/-! Totals -/

variable {tally after : Tally} {record : FileRecord} {records : List FileRecord} {prior : Option Summary}
  {verbosity : Verbosity} {report : RunReport} {now : Time} {summary : Summary}

theorem FileRecord.Covered.toNat_undocumented (covered : record.Covered) :
    record.documented.toNat + record.undocumented.toNat = record.functions.toNat := by
  have part : record.documented ≤ record.functions := covered
  rw [FileRecord.undocumented, if_pos part, UInt64.toNat_sub_of_le _ _ part]
  exact Nat.add_sub_cancel' (UInt64.le_iff_toNat_le.1 part)

theorem Tally.totals_of_records (parts : ∀ record ∈ records, record.Covered)
    (summed : Tally.ofRecords records = .ok tally) : tally.functions.toNat =
      tally.documented.toNat + (records.map fun record => record.undocumented.toNat).sum := by
  refine Fallible.foldlM_ok (motive := fun done tally => (∀ record ∈ done, record.Covered) → tally.functions.toNat =
    tally.documented.toNat + (done.map fun record => record.undocumented.toNat).sum) ?_ ?_ summed parts
  · intro done tally record next balanced added parts
    have grows := Tally.add_ok added
    have before := balanced fun record among => parts record (List.mem_append_left _ among)
    have functions := (Count.add_ok grows.functions).2
    have documented := (Count.add_ok grows.documented).2
    have part := (parts record (List.mem_append_right _ List.mem_cons_self)).toNat_undocumented
    rw [List.map_append, List.sum_append, List.map_singleton, List.sum_singleton]
    omega
  · exact fun _ => rfl

theorem Summary.documented_eq_iff (parts : ∀ record ∈ records, record.Covered)
    (summed : Summary.measure records prior verbosity report now = .ok summary) :
    summary.documentedFunctions = summary.totalFunctions ↔ ∀ record ∈ records, record.undocumented = 0 := by
  obtain ⟨tally, tallied, summed⟩ := Fallible.bind_ok summed
  have totals := Tally.totals_of_records parts tallied
  obtain ⟨version, -, summed⟩ := Fallible.bind_ok summed
  cases summed
  have equal : tally.documented = tally.functions ↔
      (records.map fun record => record.undocumented.toNat).sum = 0 := by
    rw [← UInt64.toNat_inj]
    omega
  refine equal.trans (List.sum_eq_zero_iff.trans ?_)
  simp only [List.mem_map, forall_exists_index, and_imp, forall_apply_eq_imp_iff₂]
  refine forall₂_congr fun record _ => ?_
  rw [← UInt64.toNat_inj]
  rfl

end Waymark
