import Waymark.Proofs.Summary.Figures
import Waymark.Proofs.Summary.Reordered
import Waymark.Proofs.Version.Raised

/-! Summaries that are made one after another. The version stays exactly while the counts do and is raised
otherwise, so over the whole series it tells the counts.
-/

set_option autoImplicit false

namespace Waymark

/-- What a summary is made of, the one before it apart. -/
structure Measurement where
  records : List FileRecord
  verbosity : Verbosity
  report : RunReport
  now : Time

structure Measurement.Fits (measurement : Measurement) : Prop where
  summable : Summable measurement.records
  documented : (measurement.records.map (·.documented.toNat)).sum < Count.limit

namespace Summary

variable {older newer summary : Summary} {prior : Option Summary} {measurement : Measurement}
  {measurements : List Measurement} {summaries : List Summary}

def ofMeasurement (prior : Option Summary) (measurement : Measurement) : Except Overflow Summary :=
  measure measurement.records prior measurement.verbosity measurement.report measurement.now

/-- The summaries of measurements, each made with the one before it at hand. -/
def series (prior : Option Summary) : List Measurement → Except Overflow (List Summary)
  | [] => .ok []
  | measurement :: later => do
    let summary ← ofMeasurement prior measurement
    return summary :: (← series (some summary) later)

theorem series_cons_ok (made : series prior (measurement :: measurements) = .ok summaries) :
    ∃ summary later, ofMeasurement prior measurement = .ok summary ∧
      series (some summary) measurements = .ok later ∧ summaries = summary :: later := by
  obtain ⟨summary, measured, made⟩ := Fallible.bind_ok made
  obtain ⟨later, rest, made⟩ := Fallible.bind_ok made
  cases made
  exact ⟨summary, later, measured, rest, rfl⟩

/-! One summary and the next -/

def SameCounts (a b : Summary) : Prop :=
  a.totalFiles = b.totalFiles ∧ a.totalFunctions = b.totalFunctions ∧
    a.documentedFunctions = b.documentedFunctions

theorem sameCounts_iff {a b : Summary} : a.sameCounts b = true ↔ SameCounts a b := by
  simp only [sameCounts, SameCounts, Bool.and_eq_true, beq_iff_eq, and_assoc]

/-- How a version follows the one before it. -/
structure Succeeds (older newer : Summary) : Prop where
  keeps : newer.version = older.version ↔ SameCounts older newer
  raises : ¬SameCounts older newer →
    older.version.le newer.version = true ∧ newer.version.le older.version = false

theorem succeeds_of_measurement (measured : ofMeasurement (some older) measurement = .ok newer) :
    Succeeds older newer := by
  have follows : nextVersion (some older) newer = .ok newer.version := version_of_measure measured
  by_cases same : older.sameCounts newer = true
  · have kept : older.version = newer.version := Except.ok.inj ((if_pos same).symm.trans follows)
    exact ⟨⟨fun _ => sameCounts_iff.1 same, fun _ => kept.symm⟩, fun apart => absurd (sameCounts_iff.1 same) apart⟩
  · have raised : older.version.bumpPatch = .ok newer.version := (if_neg same).symm.trans follows
    have other := Version.bumpPatch_ne raised
    have above := Version.le_of_bumpPatch raised
    have apart : ¬SameCounts older newer := fun equal => same (sameCounts_iff.2 equal)
    refine ⟨⟨fun equal => absurd equal other, fun equal => absurd equal apart⟩, fun _ => ⟨above, ?_⟩⟩
    exact Bool.eq_false_iff.2 fun below => other (Version.le_antisymm below above)

theorem first_of_measurement (measured : ofMeasurement none measurement = .ok summary) :
    summary.version = .first :=
  (Except.ok.inj (version_of_measure measured)).symm

/-! Summaries at any distance -/

/-- The version has not gone down, and where it is the same the counts are. -/
structure Precedes (older newer : Summary) : Prop where
  below : older.version.le newer.version = true
  tells : newer.version = older.version → SameCounts older newer

theorem Succeeds.precedes (succeeds : Succeeds older newer) : Precedes older newer := by
  refine ⟨?_, succeeds.keeps.1⟩
  by_cases same : SameCounts older newer
  · rw [succeeds.keeps.2 same]
    exact Version.le_refl _
  · exact (succeeds.raises same).1

theorem Precedes.trans {a b c : Summary} (first : Precedes a b) (second : Precedes b c) : Precedes a c := by
  refine ⟨Version.le_trans first.below second.below, fun same => ?_⟩
  -- A version between two that are the same is no other one.
  have middle : b.version = a.version := Version.le_antisymm (same ▸ second.below) first.below
  obtain ⟨files, functions, documented⟩ := first.tells middle
  obtain ⟨files', functions', documented'⟩ := second.tells (same.trans middle.symm)
  exact ⟨files.trans files', functions.trans functions', documented.trans documented'⟩

instance : Trans Precedes Precedes Precedes := ⟨Precedes.trans⟩

structure Versioned (summaries : List Summary) : Prop where
  first : ∀ summary ∈ summaries.head?, summary.version = .first
  consecutive : summaries.IsChain Succeeds
  throughout : summaries.Pairwise Precedes

theorem isChain_of_series (made : series (some older) measurements = .ok summaries) :
    (older :: summaries).IsChain Succeeds := by
  induction measurements generalizing older summaries with
  | nil =>
    cases made
    exact List.isChain_singleton _
  | cons measurement measurements ih =>
    obtain ⟨summary, later, measured, rest, rfl⟩ := series_cons_ok made
    exact .cons_cons (succeeds_of_measurement measured) (ih rest)

theorem versioned_of_series (made : series none measurements = .ok summaries) : Versioned summaries := by
  cases measurements with
  | nil =>
    cases made
    exact ⟨fun _ none => absurd none (by simp), .nil, .nil⟩
  | cons measurement measurements =>
    obtain ⟨summary, later, measured, rest, rfl⟩ := series_cons_ok made
    have chain := isChain_of_series rest
    refine ⟨fun _ head => ?_, chain, (chain.imp fun _ _ => Succeeds.precedes).pairwise⟩
    cases head
    exact first_of_measurement measured

/-! Where nothing overflows -/

/-- The least patch number that is not reached yet after a summary; before the first one that is zero. -/
def unreached (prior : Option Summary) : Nat := prior.elim 0 (·.version.patch.toNat + 1)

theorem patch_le_of_measurement (measured : ofMeasurement prior measurement = .ok summary) :
    summary.version.patch.toNat ≤ unreached prior := by
  have follows : nextVersion prior summary = .ok summary.version := version_of_measure measured
  cases prior with
  | none => exact (congrArg (·.patch.toNat) (first_of_measurement measured)).le
  | some older =>
    by_cases same : older.sameCounts summary = true
    · have kept : older.version = summary.version := Except.ok.inj ((if_pos same).symm.trans follows)
      exact kept ▸ Nat.le_succ _
    · have raised : older.version.bumpPatch = .ok summary.version := (if_neg same).symm.trans follows
      exact (Count.add_ok (Version.bumpPatch_ok raised).1).2.le

theorem series_succeeds (fits : ∀ measurement ∈ measurements, measurement.Fits)
    (few : unreached prior + measurements.length ≤ Count.limit) :
    ∃ summaries, series prior measurements = .ok summaries := by
  induction measurements generalizing prior with
  | nil => exact ⟨[], rfl⟩
  | cons measurement measurements ih =>
    obtain ⟨fit, fits⟩ := List.forall_mem_cons.1 fits
    rw [List.length_cons] at few
    have follows : ∀ before ∈ prior, before.version.patch.toNat + 1 < Count.limit := by
      rintro before ⟨⟩
      have reached : unreached (some before) = before.version.patch.toNat + 1 := rfl
      omega
    obtain ⟨summary, measured⟩ : ∃ summary, ofMeasurement prior measurement = .ok summary :=
      measure_succeeds fit.summable fit.documented follows _ _ _
    -- One measurement uses up one patch number at most.
    have next : unreached (some summary) ≤ unreached prior + 1 :=
      Nat.succ_le_succ (patch_le_of_measurement measured)
    obtain ⟨later, rest⟩ := ih fits (by omega : unreached (some summary) + measurements.length ≤ Count.limit)
    exact ⟨summary :: later, by rw [series, measured]; simp only [rest, bind, Except.bind, pure, Except.pure]⟩

theorem length_of_series (made : series prior measurements = .ok summaries) :
    summaries.length = measurements.length := by
  induction measurements generalizing prior summaries with
  | nil =>
    cases made
    rfl
  | cons measurement measurements ih =>
    obtain ⟨summary, later, -, rest, rfl⟩ := series_cons_ok made
    rw [List.length_cons, List.length_cons, ih rest]

/-- A series can be made where all sums fit and the patch numbers do not run out. Its versions start at the first
one and tell the counts, and no summary depends on the order of its records. -/
theorem series_versioned (measurements : List Measurement) :
    ((∀ measurement ∈ measurements, measurement.Fits) → measurements.length ≤ Count.limit →
      ∃ summaries, series none measurements = .ok summaries) ∧
    (∀ summaries, series none measurements = .ok summaries →
      summaries.length = measurements.length ∧ Versioned summaries) ∧
    ∀ records others prior verbosity report now summary, records.Perm others →
      (measure records prior verbosity report now = .ok summary ↔
        measure others prior verbosity report now = .ok summary) := by
  refine ⟨fun fits few => series_succeeds fits ?_, fun summaries made => ?_, ?_⟩
  · rw [unreached, Option.elim_none, Nat.zero_add]
    exact few
  · exact ⟨length_of_series made, versioned_of_series made⟩
  · exact fun records others prior verbosity report now summary perm =>
      ⟨measure_perm perm, measure_perm perm.symm⟩

def markedFile (path language : String) (functions documented : Count) : FileRecord :=
  ⟨path, language, [], [], documented, functions, 0⟩

/-- The second scan finds other files with the same counts, the third one a marker more. -/
def threeScans : List Measurement :=
  [⟨[markedFile "a.rs" "rs" 2 0, markedFile "b.go" "go" 1 0], .standard, default, .epoch⟩,
    ⟨[markedFile "b.go" "go" 1 0, markedFile "c.rs" "rs" 2 0], .minimal, default, .epoch⟩,
    ⟨[markedFile "b.go" "go" 1 0, markedFile "c.rs" "rs" 2 1], .standard, default, .epoch⟩]

theorem fits_threeScans : ∀ measurement ∈ threeScans, measurement.Fits := by
  have each : ∀ measurement ∈ threeScans, measurement.records.length < Count.limit ∧
      (measurement.records.map (·.functions.toNat)).sum < Count.limit ∧
      (measurement.records.map (·.lines.toNat)).sum < Count.limit ∧
      (measurement.records.map (·.documented.toNat)).sum < Count.limit := by decide
  intro measurement among
  obtain ⟨files, functions, lines, documented⟩ := each measurement among
  exact ⟨⟨files, functions, lines⟩, documented⟩

theorem series_versioned_threeScans : ∃ summaries, series none threeScans = .ok summaries ∧
    summaries.length = 3 ∧ Versioned summaries ∧ summaries.map (·.version) = [⟨1, 0, 0⟩, ⟨1, 0, 0⟩, ⟨1, 0, 1⟩] ∧
    ∃ summary, measure [markedFile "a.rs" "rs" 2 0, markedFile "b.go" "go" 1 0] none .standard default .epoch =
        .ok summary ∧
      measure [markedFile "b.go" "go" 1 0, markedFile "a.rs" "rs" 2 0] none .standard default .epoch =
        .ok summary := by
  obtain ⟨succeeds, versioned, reordered⟩ := series_versioned threeScans
  obtain ⟨summaries, made⟩ := succeeds fits_threeScans (by decide)
  obtain ⟨length, holds⟩ := versioned summaries made
  have known : (series none threeScans).toOption.map (·.map (·.version)) =
      some [⟨1, 0, 0⟩, ⟨1, 0, 0⟩, ⟨1, 0, 1⟩] := by
    decide +kernel
  rw [made] at known
  obtain ⟨first, -, measured, -, -⟩ := series_cons_ok made
  exact ⟨summaries, made, length, holds, Option.some.inj known, first, measured,
    (reordered _ _ _ _ _ _ _ (.swap _ _ [])).1 measured⟩

end Summary

end Waymark
