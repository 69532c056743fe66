import Waymark.Proofs.Command.Stored
import Waymark.Proofs.Summary.Groups

/-! The figures of one scan. Records, the figures by language and the report of missing documentation are
counted apart from each other, and each total of one is the sum of what the others count.
-/

set_option autoImplicit false

namespace Waymark

variable {record : FileRecord} {records done : List FileRecord} {tally after : Tally} {now : Time}
  {summary : Summary} {prior : Option Summary} {told : RunReport}

/-! Records -/

/-- Every name of a file is documented or not, and counted once. -/
structure FileRecord.Counted (record : FileRecord) : Prop where
  functions : record.functions.toNat = record.names.length
  parts : record.documented.toNat + record.unmarked.length = record.functions.toNat

theorem FileRecord.Counted.covered (counted : record.Counted) : record.Covered :=
  UInt64.le_iff_toNat_le.2 (counted.parts ▸ Nat.le_add_right _ _)

theorem Finding.recordOf_counted {language : Language} {text : List Char} {analysis : Analysis}
    {path extension : String} (analysed : Analysis.ofText language text = .ok analysis)
    (few : analysis.names.length < Count.limit) : (Finding.recordOf path extension analysis).Counted := by
  have parts := Analysis.length_parts analysed
  have functions : (Count.ofLength analysis.names).toNat = analysis.names.length := Count.toNat_ofLength few
  have documented : (Count.ofLength analysis.documented).toNat = analysis.documented.length :=
    Count.toNat_ofLength (by omega)
  constructor
  · exact functions
  · change (Count.ofLength analysis.documented).toNat + analysis.undocumented.length =
      (Count.ofLength analysis.names).toNat
    omega

theorem Scan.counted_of_look {sight : Sight} {scope : Scope} {tree : Tree} {root : Path} {scan : Scan}
    (ran : Scan.look sight scope tree root = .ok scan) (countable : scan.Countable) :
    ∀ record ∈ scan.records, record.Counted := by
  intro record among
  obtain ⟨language, text, analysis, path, extension, analysed, rfl⟩ := analysed_of_look ran among
  exact Finding.recordOf_counted analysed (countable _ among)

/-! The summary -/

/-- What of the figures of a language is shown without details. -/
def LanguageDetail.count (detail : LanguageDetail) : LanguageCount := ⟨detail.files, detail.functions⟩

/-- The figures by language are those of the records counted so far. -/
structure Tally.Balanced (tally : Tally) (done : List FileRecord) : Prop where
  languages : tally.languages = tally.details.map LanguageDetail.count
  files : tally.details.total (·.files.toNat) = done.length
  functions : tally.details.total (·.functions.toNat) = tally.functions.toNat
  documented : tally.details.total (·.documented.toNat) = tally.documented.toNat
  lines : tally.details.total (·.lines.toNat) = (done.map (·.lines.toNat)).sum
  whole : tally.functions.toNat = (done.map (·.functions.toNat)).sum
  part : tally.documented.toNat = (done.map (·.documented.toNat)).sum

theorem Tally.balanced_empty : Tally.empty.Balanced [] := ⟨rfl, rfl, rfl, rfl, rfl, rfl, rfl⟩

theorem Tally.Balanced.count_getD (balanced : tally.Balanced done) (language : String) :
    (tally.languages.get? language).getD default = ((tally.details.get? language).getD default).count := by
  rw [balanced.languages, Table.get?_map]
  cases tally.details.get? language <;> rfl

theorem Tally.Balanced.grows (balanced : tally.Balanced done) (grows : tally.Grows record after) :
    after.Balanced (done ++ [record]) := by
  obtain ⟨count, grown, languages⟩ := grows.languages
  obtain ⟨detail, detailed, details⟩ := grows.details
  have whole := (Count.add_ok grows.functions).2
  have part := (Count.add_ok grows.documented).2
  -- Whatever weight grows from the old figures to the new ones, the sum over all languages grows as much.
  have grown' : ∀ (weight : LanguageDetail → Nat) (more : Nat), weight default = 0 →
      weight detail = weight ((tally.details.get? record.language).getD default) + more →
      after.details.total weight = tally.details.total weight + more := by
    intro weight more zero grew
    have inserted := tally.details.total_insert weight record.language detail
    have old : (tally.details.get? record.language).elim 0 weight =
        weight ((tally.details.get? record.language).getD default) := by
      cases tally.details.get? record.language with
      | none => exact zero.symm
      | some detail => rfl
    rw [← details, old] at inserted
    omega
  constructor
  case languages =>
    have same : count = detail.count := by
      rw [balanced.count_getD] at grown
      have files : count.files = detail.files := Except.ok.inj (grown.files.symm.trans detailed.files)
      have functions : count.functions = detail.functions :=
        Except.ok.inj (grown.functions.symm.trans detailed.functions)
      rw [LanguageDetail.count, ← files, ← functions]
    rw [languages, details, balanced.languages, Table.map_insert, same]
  case files =>
    rw [grown' _ 1 rfl (Count.add_ok detailed.files).2, balanced.files, List.length_append]
    rfl
  case functions => rw [grown' _ _ rfl (Count.add_ok detailed.functions).2, balanced.functions, whole]
  case documented => rw [grown' _ _ rfl (Count.add_ok detailed.documented).2, balanced.documented, part]
  case lines =>
    rw [grown' _ _ rfl (Count.add_ok detailed.lines).2, balanced.lines, List.map_append, List.sum_append]
    rfl
  case whole =>
    rw [whole, balanced.whole, List.map_append, List.sum_append]
    rfl
  case part =>
    rw [part, balanced.part, List.map_append, List.sum_append]
    rfl

theorem Tally.balanced_of_records (summed : Tally.ofRecords records = .ok tally) : tally.Balanced records :=
  Fallible.foldlM_ok (motive := fun done tally => tally.Balanced done)
    (fun balanced added => balanced.grows (Tally.add_ok added)) balanced_empty summed

theorem Tally.Balanced.add (balanced : tally.Balanced done) (files : done.length + 1 < Count.limit)
    (functions : tally.functions.toNat + record.functions.toNat < Count.limit)
    (documented : tally.documented.toNat + record.documented.toNat < Count.limit)
    (lines : (done.map (·.lines.toNat)).sum + record.lines.toNat < Count.limit) :
    ∃ after, tally.add record = .ok after := by
  -- What is counted for one language is part of the total, so it fits where the total does.
  have inside : ∀ weight : LanguageDetail → Nat, weight default = 0 →
      weight ((tally.details.get? record.language).getD default) ≤ tally.details.total weight := by
    intro weight zero
    have part := tally.details.elim_get?_le_total weight record.language
    cases found : tally.details.get? record.language with
    | none => exact zero ▸ Nat.zero_le _
    | some detail => rwa [found] at part
  have oldFiles := inside (·.files.toNat) rfl
  have oldFunctions := inside (·.functions.toNat) rfl
  have oldDocumented := inside (·.documented.toNat) rfl
  have oldLines := inside (·.lines.toNat) rfl
  rw [balanced.files] at oldFiles
  rw [balanced.functions] at oldFunctions
  rw [balanced.documented] at oldDocumented
  rw [balanced.lines] at oldLines
  have one : (1 : Count).toNat = 1 := rfl
  have totals := Count.add_of_fits functions
  have parts := Count.add_of_fits documented
  have moreFiles : Count.add ((tally.details.get? record.language).getD default).files 1 = .ok _ :=
    Count.add_of_fits (by omega)
  have moreFunctions : Count.add ((tally.details.get? record.language).getD default).functions record.functions =
    .ok _ := Count.add_of_fits (by omega)
  have moreDocumented : Count.add ((tally.details.get? record.language).getD default).documented
    record.documented = .ok _ := Count.add_of_fits (by omega)
  have moreLines : Count.add ((tally.details.get? record.language).getD default).lines record.lines = .ok _ :=
    Count.add_of_fits (by omega)
  simp only [Tally.add, balanced.count_getD, LanguageDetail.count, Count.next, totals, parts, moreFiles,
    moreFunctions, moreDocumented, moreLines, bind, Except.bind, pure, Except.pure]
  exact ⟨_, rfl⟩

/-- The sums over all records, each of which a counter can hold. -/
structure Summable (records : List FileRecord) : Prop where
  files : records.length < Count.limit
  functions : (records.map (·.functions.toNat)).sum < Count.limit
  lines : (records.map (·.lines.toNat)).sum < Count.limit

theorem Summary.nextVersion_succeeds (follows : ∀ before ∈ prior, before.version.patch.toNat + 1 < Count.limit)
    (summary : Summary) : ∃ version, nextVersion prior summary = .ok version := by
  cases prior with
  | none => exact ⟨.first, rfl⟩
  | some before =>
    have raised : Count.add before.version.patch 1 = .ok _ := Count.add_of_fits (follows before rfl)
    by_cases same : before.sameCounts summary = true
    · exact ⟨before.version, if_pos same⟩
    · refine ⟨⟨before.version.major, before.version.minor, before.version.patch + 1⟩, ?_⟩
      rw [nextVersion, if_neg same, Version.bumpPatch, Count.next, raised]
      rfl

theorem Summary.measure_succeeds (summable : Summable records)
    (documented : (records.map (·.documented.toNat)).sum < Count.limit)
    (follows : ∀ before ∈ prior, before.version.patch.toNat + 1 < Count.limit) (verbosity : Verbosity)
    (told : RunReport) (now : Time) : ∃ summary, Summary.measure records prior verbosity told now = .ok summary := by
  obtain ⟨tally, tallied⟩ : ∃ tally, Tally.ofRecords records = .ok tally := by
    refine Fallible.exists_foldlM (motive := fun done tally => tally.Balanced done) ?_ Tally.balanced_empty
    intro done record rest tally whole balanced
    have files := summable.files
    have functions := summable.functions
    have lines := summable.lines
    rw [whole] at files functions lines documented
    simp only [List.length_append, List.length_cons, List.map_append, List.map_cons, List.sum_append,
      List.sum_cons] at files functions lines documented
    have before := balanced.whole
    have marked := balanced.part
    obtain ⟨after, added⟩ : ∃ after, tally.add record = .ok after :=
      balanced.add (by omega) (by omega) (by omega) (by omega)
    exact ⟨after, added, balanced.grows (Tally.add_ok added)⟩
  simp only [Summary.measure, tallied, bind, Except.bind]
  obtain ⟨version, found⟩ := nextVersion_succeeds follows _
  rw [found]
  exact ⟨_, rfl⟩

theorem Summable.documented (summable : Summable records) (parts : ∀ record ∈ records, record.Covered) :
    (records.map (·.documented.toNat)).sum < Count.limit :=
  Nat.lt_of_le_of_lt (List.sum_le_sum fun record among => UInt64.le_iff_toNat_le.1 (parts record among))
    summable.functions

/-- The totals of a summary are the sums of its figures by language, of those with and of those without
details, which are of the same languages. -/
structure Summary.Balanced (summary : Summary) (details : Table LanguageDetail) : Prop where
  held : summary.details = some details
  names : details.names = summary.languages.names
  files : details.total (·.files.toNat) = summary.totalFiles.toNat ∧
    summary.languages.total (·.files.toNat) = summary.totalFiles.toNat
  functions : details.total (·.functions.toNat) = summary.totalFunctions.toNat ∧
    summary.languages.total (·.functions.toNat) = summary.totalFunctions.toNat
  documented : details.total (·.documented.toNat) = summary.documentedFunctions.toNat
  covered : summary.documentedFunctions ≤ summary.totalFunctions

theorem Summary.balanced_of_measure (parts : ∀ record ∈ records, record.Covered)
    (few : records.length < Count.limit)
    (summed : Summary.measure records prior .standard told now = .ok summary) :
    ∃ details, summary.Balanced details := by
  obtain ⟨tally, tallied, summed⟩ := Fallible.bind_ok summed
  have covered := Tally.covered_of_records parts tallied
  have balanced := Tally.balanced_of_records tallied
  obtain ⟨version, -, summed⟩ := Fallible.bind_ok summed
  cases summed
  -- The coverage is set at last and is none of the sums.
  have kept : ∀ weight : LanguageDetail → Nat, (∀ detail, weight detail.withCoverage = weight detail) →
      (tally.details.map (·.withCoverage)).total weight = tally.details.total weight := by
    intro weight same
    rw [Table.total_map]
    exact congrArg (Table.total tally.details) (funext same)
  have brief : ∀ weight : LanguageCount → Nat,
      tally.languages.total weight = tally.details.total fun detail => weight detail.count := by
    intro weight
    rw [balanced.languages, Table.total_map]
    rfl
  have files : tally.details.total (·.files.toNat) = (Count.ofLength records).toNat := by
    rw [balanced.files, Count.toNat_ofLength few]
  refine ⟨tally.details.map (·.withCoverage), ?_⟩
  constructor
  case held => rfl
  case names =>
    simp only [balanced.languages, Table.names, Table.map, List.map_map]
    rfl
  case files => exact ⟨(kept _ fun _ => rfl).trans files, (brief _).trans files⟩
  case functions => exact ⟨(kept _ fun _ => rfl).trans balanced.functions, (brief _).trans balanced.functions⟩
  case documented => exact (kept _ fun _ => rfl).trans balanced.documented
  case covered => exact covered.total

/-! The figures of one scan -/

namespace Scan

variable {sight : Sight} {scope : Scope} {tree : Tree} {root : Path} {found : Scan}

theorem ascending_of_look (faithful : sight.Faithful) (proper : tree.Proper)
    (counted : tree.items.length < Count.limit) (ran : Scan.look sight scope tree root = .ok found) :
    (found.records.Pairwise fun a b => a.path ≤ b.path) ∧ found.records.length < Count.limit := by
  obtain ⟨opened, home, rooted⟩ := rooted_of_look ran
  have accounts := accounts_of_look faithful opened proper counted rooted ran
  exact ⟨accounts.ascending, accounts.scanned ▸ UInt64.toNat_lt _⟩

/-- What the summary and the reports of one scan say. -/
structure Agrees (found : Scan) (summary : Summary) : Prop where
  balanced : ∃ details, summary.Balanced details
  reports : ∀ threshold now, ∃ missing, MissingDocs.ofRecords found.records threshold now = .ok missing ∧
    missing.Reports threshold found.records
  undocumented : ∀ now missing, MissingDocs.ofRecords found.records 0 now = .ok missing →
    missing.totalUndocumented.toNat + summary.documentedFunctions.toNat = summary.totalFunctions.toNat ∧
    (missing.isEmpty = true ↔ summary.documentedFunctions = summary.totalFunctions)

theorem agrees_of_measure (parts : ∀ record ∈ found.records, record.Covered)
    (ascending : found.records.Pairwise fun a b => a.path ≤ b.path) (few : found.records.length < Count.limit)
    (summed : Summary.measure found.records prior .standard told now = .ok summary) : found.Agrees summary := by
  obtain ⟨tally, tallied, rest⟩ := Fallible.bind_ok summed
  have totals := Tally.totals_of_records parts tallied
  obtain ⟨version, -, rest⟩ := Fallible.bind_ok rest
  have functions : summary.totalFunctions = tally.functions := by cases rest; rfl
  have documented : summary.documentedFunctions = tally.documented := by cases rest; rfl
  constructor
  case balanced => exact Summary.balanced_of_measure parts few summed
  case reports =>
    intro threshold now
    have fits : tally.functions.toNat < Count.limit := UInt64.toNat_lt _
    have few : (found.records.map (·.undocumented.toNat)).sum < Count.limit := by omega
    obtain ⟨missing, listed⟩ := MissingDocs.ofRecords_succeeds few threshold now
    exact ⟨missing, listed, MissingDocs.reports_of_records ascending listed⟩
  case undocumented =>
    intro now missing listed
    have grouped := MissingDocs.grouped_of_records listed
    have reports := MissingDocs.reports_of_records ascending listed
    constructor
    · rw [grouped.totalUndocumented, MissingDocs.sum_beyond_zero, functions, documented, totals, Nat.add_comm]
    · rw [reports.isEmpty_iff, MissingDocs.files_eq_nil_iff listed, Summary.documented_eq_iff parts summed]
      refine forall₂_congr fun record _ => ?_
      rw [UInt64.le_iff_toNat_le, ← UInt64.toNat_inj]
      exact Nat.le_zero

/-- The records of a scan, every summary that is made of them and every report are of the same figures; and a
summary can be made of them wherever the sums stay within a counter. -/
theorem figures_agree (faithful : sight.Faithful) (proper : tree.Proper) (counted : tree.items.length < Count.limit)
    (ran : Scan.look sight scope tree root = .ok found) (countable : found.Countable) :
    (∀ record ∈ found.records, record.Counted) ∧
    (∀ prior told now, Summable found.records →
      (∀ before ∈ prior, before.version.patch.toNat + 1 < Count.limit) →
      ∃ summary, Summary.measure found.records prior .standard told now = .ok summary) ∧
    ∀ prior told now summary, Summary.measure found.records prior .standard told now = .ok summary →
      found.Agrees summary := by
  have counts := counted_of_look ran countable
  have parts : ∀ record ∈ found.records, record.Covered := fun record among => (counts record among).covered
  obtain ⟨ascending, few⟩ := ascending_of_look faithful proper counted ran
  refine ⟨counts, ?_, ?_⟩
  · intro prior told now summable follows
    exact Summary.measure_succeeds summable (summable.documented parts) follows .standard told now
  · intro prior told now summary summed
    exact agrees_of_measure parts ascending few summed

/-- Of four files in two directories one has more than one undocumented function. -/
theorem figures_agree_sample : sampleSight.Faithful ∧ sampleTree.Proper ∧ sampleTree.items.length < Count.limit ∧
    Scan.look sampleSight sampleScope sampleTree ⟨"/w"⟩ = .ok sampleScan ∧ sampleScan.Countable ∧
    (∀ record ∈ sampleScan.records, record.Counted) ∧
    (∃ summary, Summary.measure sampleScan.records none .standard sampleScan.report .epoch = .ok summary ∧
      sampleScan.Agrees summary) ∧
    sampleScan.records.map (·.directory) = ["lib", "lib", ".", "."] ∧
    MissingDocs.beyond 1 sampleScan.records = sampleScan.records.take 1 := by
  have counted : sampleTree.items.length < Count.limit := by decide
  have countable : sampleScan.Countable := by
    have few : ∀ record ∈ sampleScan.records, record.names.length < Count.limit := by decide
    exact few
  obtain ⟨counts, succeeds, agrees⟩ :=
    figures_agree sampleSight_faithful sampleTree_proper counted look_sample countable
  obtain ⟨summary, summed⟩ := succeeds none sampleScan.report .epoch ⟨by decide, by decide, by decide⟩
    fun _ none => by cases none
  exact ⟨sampleSight_faithful, sampleTree_proper, counted, look_sample, countable, counts,
    ⟨summary, summed, agrees _ _ _ _ summed⟩, by decide, by decide⟩

end Scan

end Waymark
