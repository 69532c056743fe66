import Waymark.Proofs.Changelog.Course
import Waymark.Proofs.Document.Older

/-! The numbers of the entries that an older changelog gives. An entry without a number of its own is numbered by
its place, which may be a number that another entry has; the entries recorded later are numbered beyond all.
-/

set_option autoImplicit false

namespace Waymark.Legacy

open Json Changelog

variable {raw : ByteArray} {form : ChangelogForm} {entries : List EntryForm}

theorem Holds.readChangelog (holds : Holds changelogShape raw form) :
    Document.readChangelog raw = .ok form.toChangelog :=
  holds.readEither

/-! Numbers that are given and numbers that are filled in -/

def EntryForm.own? (form : EntryForm) : Option Count := form.id.bind numberOf?

def ownNumbers (entries : List EntryForm) : List Count := entries.filterMap (·.own?)

/-- The places, counted from the oldest entry, of the entries without a number in their ids. -/
def unnumbered : List EntryForm → List Nat
  | [] => []
  | form :: older => if form.own?.isNone then (older.length + 1) :: unnumbered older else unnumbered older

section
variable {form : EntryForm} {older : List EntryForm} {number : Count} {place : Nat}

theorem number_of_none (own : form.own? = none) (place : Nat) : form.number place = UInt64.ofNat place := by
  rw [EntryForm.own?] at own
  rw [EntryForm.number, own, Option.getD_none]

theorem number_of_some (own : form.own? = some number) (place : Nat) : form.number place = number := by
  rw [EntryForm.own?] at own
  rw [EntryForm.number, own, Option.getD_some]

theorem ownNumbers_of_none (own : form.own? = none) : ownNumbers (form :: older) = ownNumbers older :=
  List.filterMap_cons_none own

theorem ownNumbers_of_some (own : form.own? = some number) :
    ownNumbers (form :: older) = number :: ownNumbers older :=
  List.filterMap_cons_some own

end

theorem le_of_mem_unnumbered {place : Nat} (among : place ∈ unnumbered entries) : place ≤ entries.length := by
  induction entries with
  | nil => cases among
  | cons form older ih =>
    rw [unnumbered] at among
    rw [List.length_cons]
    split at among
    · rcases List.mem_cons.1 among with rfl | among
      · exact Nat.le_refl _
      · exact Nat.le_succ_of_le (ih among)
    · exact Nat.le_succ_of_le (ih among)

theorem mem_numbers {number : Count} : number ∈ (ChangelogForm.numbered entries).map Prod.snd ↔
    number ∈ ownNumbers entries ∨ ∃ place ∈ unnumbered entries, number = UInt64.ofNat place := by
  induction entries with
  | nil => simp [ChangelogForm.numbered, ownNumbers, unnumbered]
  | cons form older ih =>
    rw [ChangelogForm.numbered, List.map_cons, List.mem_cons, ih, unnumbered]
    cases own : form.own? with
    | none =>
      rw [number_of_none own, ownNumbers_of_none own, if_pos Option.isNone_none, List.exists_mem_cons_iff]
      exact or_left_comm
    | some given =>
      rw [number_of_some own, ownNumbers_of_some own, if_neg (by simp), List.mem_cons, or_assoc]

theorem nodup_numbers_iff (few : entries.length < Count.limit) (distinct : (ownNumbers entries).Nodup) :
    ((ChangelogForm.numbered entries).map Prod.snd).Nodup ↔
      ∀ place ∈ unnumbered entries, UInt64.ofNat place ∉ ownNumbers entries := by
  induction entries with
  | nil => simp [ChangelogForm.numbered, unnumbered]
  | cons form older ih =>
    rw [List.length_cons] at few
    have fewer : older.length < Count.limit := Nat.lt_of_succ_lt few
    rw [ChangelogForm.numbered, List.map_cons, List.nodup_cons, mem_numbers, not_or, unnumbered]
    cases own : form.own? with
    | none =>
      rw [ownNumbers_of_none own] at distinct
      rw [number_of_none own, ownNumbers_of_none own, if_pos Option.isNone_none, List.forall_mem_cons,
        ih fewer distinct]
      -- The places of older entries are lower ones.
      have apart : ¬∃ place ∈ unnumbered older, UInt64.ofNat (older.length + 1) = UInt64.ofNat place := by
        rintro ⟨place, among, same⟩
        have lower := le_of_mem_unnumbered among
        have counts := congrArg UInt64.toNat same
        rw [UInt64.toNat_ofNat_of_lt' few, UInt64.toNat_ofNat_of_lt' (Nat.lt_of_le_of_lt lower fewer)] at counts
        omega
      simp only [apart, not_false_eq_true, and_true]
    | some given =>
      rw [ownNumbers_of_some own, List.nodup_cons] at distinct
      rw [number_of_some own, ownNumbers_of_some own, if_neg (by simp), ih fewer distinct.2]
      constructor
      · rintro ⟨⟨-, other⟩, apart⟩ place among inside
        rcases List.mem_cons.1 inside with same | inside
        · exact other ⟨place, among, same.symm⟩
        · exact apart place among inside
      · intro apart
        refine ⟨⟨distinct.1, ?_⟩, fun place among inside => apart place among (List.mem_cons_of_mem _ inside)⟩
        rintro ⟨place, among, same⟩
        exact apart place among (same ▸ List.mem_cons_self)

theorem ids_toChangelog (form : ChangelogForm) : form.toChangelog.entries.map (·.id) =
    ((ChangelogForm.numbered form.entries).map Prod.snd).map entryId := by
  change ((ChangelogForm.numbered form.entries).map fun entry =>
    entry.1.toEntry entry.2 form.version).map (·.id) = _
  rw [List.map_map, List.map_map]
  rfl

theorem entryId_injective : Function.Injective entryId :=
  fun _ _ same => UInt64.toNat_inj.1 (entryName_injective same)

/-! Entries that are recorded later -/

theorem le_max (a b : Count) : a ≤ max a b ∧ b ≤ max a b := by
  change a ≤ (if a ≤ b then b else a) ∧ b ≤ (if a ≤ b then b else a)
  split
  · rename_i below
    exact ⟨below, UInt64.le_refl b⟩
  · rename_i above
    exact ⟨UInt64.le_refl a, UInt64.le_of_lt (UInt64.not_le.1 above)⟩

theorem le_highest (numbered : List (EntryForm × Count)) (start : Count) :
    start ≤ numbered.foldl (fun highest entry => max highest entry.2) start ∧
    ∀ entry ∈ numbered, entry.2 ≤ numbered.foldl (fun highest entry => max highest entry.2) start := by
  induction numbered generalizing start with
  | nil => exact ⟨UInt64.le_refl start, fun _ among => absurd among List.not_mem_nil⟩
  | cons first rest ih =>
    obtain ⟨lower, upper⟩ := le_max start first.2
    obtain ⟨reached, below⟩ := ih (max start first.2)
    refine ⟨UInt64.le_trans lower reached, fun entry among => ?_⟩
    rcases List.mem_cons.1 among with rfl | among
    · exact UInt64.le_trans upper reached
    · exact below entry among

theorem le_sequence {number : Count} (among : number ∈ (ChangelogForm.numbered form.entries).map Prod.snd) :
    number ≤ form.toChangelog.sequence := by
  obtain ⟨entry, listed, rfl⟩ := List.mem_map.1 among
  exact (le_highest _ 0).2 entry listed

/-- A changelog without a tag is accepted exactly if it is of the older form. If its entries have different numbers
in their ids, it is carried over with different ids exactly if no entry that lacks a number stands at a place that is
the number of another one. Whatever is recorded later has an id of its own. -/
theorem migrated_ids (untagged : Untagged raw) :
    ((∃ log, Document.readChangelog raw = .ok log) ↔ ∃ form, Holds changelogShape raw form) ∧
    ∀ form, Holds changelogShape raw form → form.entries.length < Count.limit → (ownNumbers form.entries).Nodup →
      ∃ log, Document.readChangelog raw = .ok log ∧
        ((log.entries.map (·.id)).Nodup ↔
          ∀ place ∈ unnumbered form.entries, UInt64.ofNat place ∉ ownNumbers form.entries) ∧
        ∀ actions course, log.run actions = .ok course → (course.recorded.map (·.id)).Nodup ∧
          ∀ entry ∈ course.recorded, ∀ old ∈ log.entries, entry.id ≠ old.id := by
  refine ⟨accepted_iff untagged, fun form holds few distinct => ?_⟩
  refine ⟨form.toChangelog, holds.readChangelog, ?_, fun actions course ran => ?_⟩
  · rw [ids_toChangelog, List.nodup_map_iff entryId_injective, nodup_numbers_iff few distinct]
  · have follows := follows_of_run ran
    refine ⟨follows.nodup, fun entry recorded old carried same => ?_⟩
    obtain ⟨number, beyond, named⟩ := follows.number recorded
    have among : old.id ∈ form.toChangelog.entries.map (·.id) := List.mem_map_of_mem carried
    rw [ids_toChangelog] at among
    obtain ⟨earlier, among, given⟩ := List.mem_map.1 among
    have below := UInt64.le_iff_toNat_le.1 (le_sequence among)
    have equal : number = earlier.toNat := entryName_injective (named.symm.trans (same.trans given.symm))
    omega

/-! Two older changelogs -/

/-- Of three entries the second one has no number and stands at a place that is no number of the others. -/
def gapped : String :=
  "\x7b\"changelog_version\": \"1.3.0\", \"entries\": [\x7b\"id\": \"change_007\"\x7d, \x7b\"summary\": \"no id\"\x7d, " ++
  "\x7b\"id\": \"change_001\"\x7d]\x7d"

def lateFix : List Action := [.record ⟨.fix, "late", none, .epoch⟩]

theorem migrated_ids_gapped : ∃ form log course, Untagged gapped.toUTF8 ∧ Holds changelogShape gapped.toUTF8 form ∧
    form.entries.length < Count.limit ∧ (ownNumbers form.entries).Nodup ∧
    Document.readChangelog gapped.toUTF8 = .ok log ∧
    log.entries.map (·.id) = ["change_007", "change_002", "change_001"] ∧ (log.entries.map (·.id)).Nodup ∧
    log.run lateFix = .ok course ∧ course.recorded.map (·.id) = ["change_008"] ∧
    ∀ entry ∈ course.recorded, ∀ old ∈ log.entries, entry.id ≠ old.id := by
  obtain ⟨form, said⟩ : ∃ form, form? changelogShape gapped = some form := Option.isSome_iff_exists.1 (by decide +kernel)
  have holds := holds_of_form? said
  -- Of the document only numbers and ids are evaluated, not the times.
  have known : (form? changelogShape gapped).map (fun form => (form.entries.length, ownNumbers form.entries,
      unnumbered form.entries, form.toChangelog.entries.map (·.id))) =
      some (3, [7, 1], [2], ["change_007", "change_002", "change_001"]) := by
    decide +kernel
  have later : (form? changelogShape gapped).bind (fun form =>
      (form.toChangelog.run lateFix).toOption.map (·.recorded.map (·.id))) = some ["change_008"] := by
    decide +kernel
  rw [said] at known later
  obtain ⟨length, known⟩ := Prod.mk.inj (Option.some.inj known)
  obtain ⟨own, known⟩ := Prod.mk.inj known
  obtain ⟨places, ids⟩ := Prod.mk.inj known
  obtain ⟨course, ran, recorded⟩ := Option.map_eq_some_iff.1 later
  have few : form.entries.length < Count.limit := by
    rw [length]
    decide
  have distinct : (ownNumbers form.entries).Nodup := by
    rw [own]
    decide
  obtain ⟨log, read, different, beyond⟩ := (migrated_ids holds.untagged).2 form holds few distinct
  cases holds.readChangelog.symm.trans read
  have ran := Fallible.ok_of_toOption ran
  refine ⟨form, form.toChangelog, course, holds.untagged, holds, few, distinct, read, ids, different.2 ?_, ran, recorded,
    (beyond lateFix course ran).2⟩
  rw [places, own]
  decide

/-- The entry without a number stands at the place that is the number of the other one. -/
def clashing : String :=
  "\x7b\"changelog_version\": \"1.2.0\", \"entries\": [\x7b\"id\": \"change_001\"\x7d, \x7b\"summary\": \"no id\"\x7d]\x7d"

theorem ids_clash : ∃ form log, Holds changelogShape clashing.toUTF8 form ∧ (ownNumbers form.entries).Nodup ∧
    Document.readChangelog clashing.toUTF8 = .ok log ∧ ¬(log.entries.map (·.id)).Nodup := by
  obtain ⟨form, said⟩ : ∃ form, form? changelogShape clashing = some form := Option.isSome_iff_exists.1 (by decide +kernel)
  have holds := holds_of_form? said
  have known : (form? changelogShape clashing).map (fun form => (ownNumbers form.entries,
      form.toChangelog.entries.map (·.id))) = some ([1], ["change_001", "change_001"]) := by
    decide +kernel
  rw [said] at known
  obtain ⟨own, ids⟩ := Prod.mk.inj (Option.some.inj known)
  refine ⟨form, form.toChangelog, holds, ?_, holds.readChangelog, ?_⟩
  · rw [own]
    decide
  · rw [ids]
    decide

end Waymark.Legacy
