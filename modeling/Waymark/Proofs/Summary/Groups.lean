import Waymark.Proofs.Summary.Listing

/-! The groups of a report. A file is listed under its own directory, in the order of the records, and the
totals of the report are those of what is listed.
-/

set_option autoImplicit false

namespace Waymark

variable {record : FileRecord} {records done : List FileRecord} {threshold : Count}
  {report next missing : MissingDocs} {now : Time}

/-- The part of a path before its last slash, or a point where it has none. -/
inductive DirectoryOf : String → String → Prop where
  | inside (directory name : String) (plain : '/' ∉ name.toList) : DirectoryOf (directory ++ "/" ++ name) directory
  | top (path : String) (plain : '/' ∉ path.toList) : DirectoryOf path "."

theorem FileRecord.directoryOf (record : FileRecord) : DirectoryOf record.path record.directory := by
  unfold directory
  dsimp only
  split
  · rename_i slashed
    have parts : record.path.toList.reverse.takeWhile (· != '/') ++ record.path.toList.reverse.dropWhile (· != '/') =
      record.path.toList.reverse := List.takeWhile_append_dropWhile
    have plain : '/' ∉ record.path.toList.reverse.takeWhile (· != '/') := fun among => by
      simpa using List.mem_takeWhile_imp among
    -- Read from its end, a path is the name, a slash and what lies above.
    generalize record.path.toList.reverse.takeWhile (· != '/') = name at parts plain
    cases behind : record.path.toList.reverse.dropWhile (· != '/') with
    | nil =>
      rw [behind, List.append_nil] at parts
      rw [parts, List.mem_reverse] at plain
      exact absurd (List.contains_iff_mem.1 slashed) plain
    | cons slash above =>
      have stops := List.head?_dropWhile_not (· != '/') record.path.toList.reverse
      rw [behind] at stops parts
      obtain rfl : slash = '/' := by simpa using stops
      have split : record.path = String.ofList above.reverse ++ "/" ++ String.ofList name.reverse := by
        rw [← String.toList_inj, ← List.reverse_inj, ← parts]
        simp
      have inside : DirectoryOf (String.ofList above.reverse ++ "/" ++ String.ofList name.reverse)
          (String.ofList above.reverse) := .inside _ _ (by simpa using plain)
      rwa [← split] at inside
  · rename_i flat
    exact .top record.path (by simpa using flat)

namespace MissingDocs

def beyond (threshold : Count) (records : List FileRecord) : List FileRecord :=
  records.filter fun record => ¬record.undocumented ≤ threshold

def group (threshold : Count) (records : List FileRecord) (directory : String) : List MissingFile :=
  ((beyond threshold records).filter fun record => record.directory = directory).map listing

structure Grouped (report : MissingDocs) (threshold : Count) (done : List FileRecord) : Prop where
  bound : report.threshold = threshold
  groups : ∀ directory, (report.directories.get? directory).getD [] = group threshold done directory
  filled : ∀ directory, report.directories.get? directory ≠ some []
  totalFiles : report.totalFiles.toNat = (beyond threshold done).length
  totalUndocumented :
    report.totalUndocumented.toNat = ((beyond threshold done).map (·.undocumented.toNat)).sum

theorem grouped_empty (threshold : Count) (now : Time) : (empty threshold now).Grouped threshold [] :=
  ⟨rfl, fun _ => rfl, fun _ some => (by cases some), rfl, rfl⟩

theorem beyond_concat_of_le (few : record.undocumented ≤ threshold) (done : List FileRecord) :
    beyond threshold (done ++ [record]) = beyond threshold done := by
  rw [beyond, List.filter_append, List.filter_cons_of_neg (by simpa using few), List.filter_nil, List.append_nil]
  rfl

theorem beyond_concat (many : ¬record.undocumented ≤ threshold) (done : List FileRecord) :
    beyond threshold (done ++ [record]) = beyond threshold done ++ [record] := by
  rw [beyond, List.filter_append, List.filter_cons_of_pos (by simpa using many), List.filter_nil]
  rfl

theorem group_concat (many : ¬record.undocumented ≤ threshold) (done : List FileRecord) (directory : String) :
    group threshold (done ++ [record]) directory =
      group threshold done directory ++ if directory = record.directory then [listing record] else [] := by
  rw [group, beyond_concat many, List.filter_append, List.map_append]
  split
  · rename_i same
    rw [List.filter_cons_of_pos (by simp [same])]
    rfl
  · rename_i apart
    rw [List.filter_cons_of_neg (by simpa using Ne.symm apart)]
    rfl

theorem Grouped.add (grouped : report.Grouped threshold done) (added : report.add record = .ok next) :
    next.Grouped threshold (done ++ [record]) := by
  unfold MissingDocs.add at added
  simp only [Bool.or_eq_true, decide_eq_true_eq, not_listed_iff] at added
  -- Up to the threshold nothing changes; beyond it the file joins those of its directory.
  by_cases few : record.undocumented ≤ threshold
  · rw [grouped.bound, if_pos few] at added
    cases added
    refine ⟨grouped.bound, fun directory => ?_, grouped.filled, ?_, ?_⟩
    · rw [group, beyond_concat_of_le few]
      exact grouped.groups directory
    · rw [beyond_concat_of_le few]
      exact grouped.totalFiles
    · rw [beyond_concat_of_le few]
      exact grouped.totalUndocumented
  · rw [grouped.bound, if_neg few] at added
    obtain ⟨files, counted, added⟩ := Fallible.bind_ok added
    obtain ⟨undocumented, summed, added⟩ := Fallible.bind_ok added
    cases added
    constructor
    case bound => rfl
    case groups =>
      intro directory
      rw [group_concat few, Table.get?_insert]
      split
      · rename_i same
        rw [same, Option.getD_some, grouped.groups]
        rfl
      · rw [grouped.groups, List.append_nil]
    case filled =>
      intro directory
      rw [Table.get?_insert]
      split
      · simp
      · exact grouped.filled directory
    case totalFiles =>
      have next := (Count.add_ok counted).2
      rw [grouped.totalFiles] at next
      rw [beyond_concat few, List.length_append]
      exact next
    case totalUndocumented =>
      have next := (Count.add_ok summed).2
      rw [grouped.totalUndocumented] at next
      rw [beyond_concat few, List.map_append, List.sum_append]
      exact next

theorem grouped_of_records (listed : ofRecords records threshold now = .ok missing) :
    missing.Grouped threshold records :=
  Fallible.foldlM_ok (motive := fun done report => report.Grouped threshold done) Grouped.add (grouped_empty threshold now)
    listed

theorem undocumented_pos (many : ¬record.undocumented ≤ threshold) : 0 < record.undocumented.toNat := by
  rw [UInt64.le_iff_toNat_le] at many
  omega

theorem length_beyond_le (threshold : Count) (records : List FileRecord) :
    (beyond threshold records).length ≤ ((beyond threshold records).map (·.undocumented.toNat)).sum := by
  rw [← List.length_map (·.undocumented.toNat)]
  refine List.length_le_sum_of_one_le _ fun count among => ?_
  obtain ⟨record, listed, rfl⟩ := List.mem_map.1 among
  exact undocumented_pos (of_decide_eq_true (List.mem_filter.1 listed).2)

theorem sum_beyond_le (threshold : Count) (records : List FileRecord) :
    ((beyond threshold records).map (·.undocumented.toNat)).sum ≤ (records.map (·.undocumented.toNat)).sum :=
  (List.filter_sublist.map _).sum_le_sum fun _ _ => Nat.zero_le _

/-- A report can be made wherever the sum of what is undocumented stays within a counter. -/
theorem ofRecords_succeeds (few : (records.map (·.undocumented.toNat)).sum < Count.limit) (threshold : Count)
    (now : Time) : ∃ missing, ofRecords records threshold now = .ok missing := by
  refine Fallible.exists_foldlM (motive := fun done report => report.Grouped threshold done) ?_ (grouped_empty threshold now)
  rintro done record rest report whole grouped
  suffices succeeds : ∃ next, report.add record = .ok next by
    obtain ⟨next, added⟩ := succeeds
    exact ⟨next, added, grouped.add added⟩
  unfold MissingDocs.add
  simp only [Bool.or_eq_true, decide_eq_true_eq, not_listed_iff, grouped.bound]
  by_cases enough : record.undocumented ≤ threshold
  · exact ⟨report, if_pos enough⟩
  · have some := undocumented_pos enough
    have length := length_beyond_le threshold done
    have sum := sum_beyond_le threshold done
    rw [whole, List.map_append, List.sum_append, List.map_cons, List.sum_cons] at few
    have one : (1 : Count).toNat = 1 := rfl
    have counted : Count.add report.totalFiles 1 = .ok _ :=
      Count.add_of_fits (by rw [grouped.totalFiles]; omega)
    have summed : Count.add report.totalUndocumented record.undocumented = .ok _ :=
      Count.add_of_fits (by rw [grouped.totalUndocumented]; omega)
    simp only [if_neg enough, Count.next, counted, summed, bind, Except.bind]
    exact ⟨_, rfl⟩

/-- What a report of missing documentation tells of the records. -/
structure Reports (report : MissingDocs) (threshold : Count) (records : List FileRecord) : Prop where
  /-- Each file beyond the threshold is listed, and once. -/
  once : report.files.Perm ((beyond threshold records).map listing)
  distinct : (records.map (·.path)).Nodup → (report.files.map (·.path)).Nodup
  /-- It is listed under its own directory, in the order of the records. -/
  groups : ∀ directory, (report.directories.get? directory).getD [] = group threshold records directory
  located : ∀ entry ∈ report.directories.entries, ∀ file ∈ entry.2, DirectoryOf file.path entry.1
  ordered : ∀ entry ∈ report.directories.entries, entry.2.Pairwise fun a b => a.path ≤ b.path
  filled : ∀ entry ∈ report.directories.entries, entry.2 ≠ []
  totalFiles : report.totalFiles.toNat = report.files.length
  totalUndocumented : report.totalUndocumented.toNat = (report.files.map (·.undocumented.toNat)).sum

theorem reports_of_records (ascending : records.Pairwise fun a b => a.path ≤ b.path)
    (listed : ofRecords records threshold now = .ok missing) : missing.Reports threshold records := by
  have once := files_ofRecords listed
  have grouped := grouped_of_records listed
  have entries : ∀ entry ∈ missing.directories.entries, entry.2 = group threshold records entry.1 := by
    intro entry among
    have same := grouped.groups entry.1
    rwa [Table.get?_of_mem among, Option.getD_some] at same
  constructor
  case once => exact once
  case distinct =>
    intro distinct
    refine (once.map _).nodup_iff.2 ?_
    rw [List.map_map]
    exact distinct.sublist (List.filter_sublist.map _)
  case groups => exact grouped.groups
  case located =>
    intro entry among file listed
    rw [entries entry among] at listed
    obtain ⟨record, held, rfl⟩ := List.mem_map.1 listed
    have own : record.directory = entry.1 := of_decide_eq_true (List.mem_filter.1 held).2
    exact own ▸ record.directoryOf
  case ordered =>
    intro entry among
    rw [entries entry among]
    exact List.pairwise_map.2 ((ascending.filter _).filter _)
  case filled =>
    intro entry among none
    have found := Table.get?_of_mem among
    rw [none] at found
    exact grouped.filled entry.1 found
  case totalFiles =>
    rw [grouped.totalFiles, once.length_eq, List.length_map]
    rfl
  case totalUndocumented =>
    have sums := (once.map (·.undocumented.toNat)).sum_eq
    rw [grouped.totalUndocumented, sums, List.map_map]
    rfl

theorem Reports.isEmpty_iff (reports : report.Reports threshold records) :
    report.isEmpty = true ↔ report.files = [] := by
  rw [MissingDocs.isEmpty, Table.isEmpty, List.isEmpty_iff, files, Table.values, List.flatten_eq_nil_iff]
  constructor
  · intro none group among
    rw [none] at among
    cases among
  · intro nothing
    refine List.eq_nil_iff_forall_not_mem.2 fun entry among => ?_
    exact reports.filled entry among (nothing entry.2 (List.mem_map_of_mem among))

theorem sum_beyond_zero (records : List FileRecord) :
    ((beyond 0 records).map (·.undocumented.toNat)).sum = (records.map (·.undocumented.toNat)).sum := by
  induction records with
  | nil => rfl
  | cons record rest ih =>
    by_cases none : record.undocumented ≤ 0
    · have zero : record.undocumented.toNat = 0 := by
        rw [UInt64.le_iff_toNat_le] at none
        exact Nat.le_zero.1 none
      rw [List.map_cons, List.sum_cons, zero, Nat.zero_add, ← ih, beyond,
        List.filter_cons_of_neg (by simpa using none)]
      rfl
    · rw [List.map_cons, List.sum_cons, ← ih, beyond, List.filter_cons_of_pos (by simpa using none), List.map_cons,
        List.sum_cons]
      rfl

end MissingDocs

end Waymark
