import Waymark.Changelog.Basic
import Waymark.Proofs.Version.Raised

/-! What recording an entry and taking out the oldest ones make of a changelog. No entry is dropped on
the way: what is not kept is taken out.
-/

set_option autoImplicit false

namespace Waymark

namespace Changelog

variable {log recorded kept : Changelog} {category : Category} {summary : String}
  {projectVersion : Option Version} {now : Time} {entry : ChangelogEntry} {retention : Nat}
  {removed : List ChangelogEntry}

theorem record_ok (h : log.record category summary projectVersion now = (recorded, .ok entry)) :
    ∃ sequence version, log.sequence.next = .ok sequence ∧ log.version.bumpMinor = .ok version ∧
      entry = ⟨entryId sequence, version, now, category, summary, projectVersion⟩ ∧
      recorded = refresh { log with
        version, sequence, entries := entry :: log.entries, lastUpdated := some now } := by
  unfold record at h
  split at h
  · cases h
  rename_i sequence next
  simp only at h
  split at h
  · cases h
  rename_i version raised
  cases h
  exact ⟨sequence, version, next, raised, rfl, rfl⟩

/-- What is beyond the retention is taken out and counted as archived, and nothing else changes. -/
structure Taken (log : Changelog) (retention : Nat) (kept : Changelog) (removed : List ChangelogEntry) : Prop where
  version : kept.version = log.version
  sequence : kept.sequence = log.sequence
  lastUpdated : kept.lastUpdated = log.lastUpdated
  entries : kept.entries = log.entries.take retention
  beyond : removed = log.entries.drop retention
  archived : log.statistics.archivedEntries.add (Count.ofLength removed) = .ok kept.statistics.archivedEntries
  refreshed : log.refresh = log → kept.refresh = kept

theorem taken_of_takeOverflow (taking : log.takeOverflow retention = (kept, .ok removed)) :
    Taken log retention kept removed := by
  unfold takeOverflow at taking
  split at taking
  · rename_i fits
    cases taking
    -- Everything fits, so nothing is added to the number of archived entries.
    refine ⟨rfl, rfl, rfl, (List.take_of_length_le fits).symm, (List.drop_of_length_le fits).symm, ?_, id⟩
    have within : log.statistics.archivedEntries.toNat + (0 : Count).toNat < Count.limit := UInt64.toNat_lt _
    exact (Count.add_of_fits within).trans (congrArg Except.ok (UInt64.add_zero _))
  · dsimp only at taking
    split at taking
    · cases taking
    · rename_i added
      cases taking
      exact ⟨rfl, rfl, rfl, rfl, rfl, added, fun _ => rfl⟩

/-- The changelog after an entry was recorded and the entries beyond the newest ones were taken out. -/
def advanced (log : Changelog) (retention : Nat) (sequence : Count) (entry : ChangelogEntry) :
    Changelog :=
  let entries := (entry :: log.entries).take retention
  { version := entry.version
    lastUpdated := some entry.date
    entries
    statistics := ⟨Count.ofLength entries, countByCategory entries,
      log.statistics.archivedEntries + Count.ofLength ((entry :: log.entries).drop retention)⟩
    sequence }

theorem advance_ok (recording : log.record category summary projectVersion now = (recorded, .ok entry))
    (taking : recorded.takeOverflow retention = (kept, .ok removed)) :
    ∃ sequence version, log.sequence.next = .ok sequence ∧ log.version.bumpMinor = .ok version ∧
      entry = ⟨entryId sequence, version, now, category, summary, projectVersion⟩ ∧
      kept = log.advanced retention sequence entry ∧ removed = (entry :: log.entries).drop retention := by
  obtain ⟨sequence, version, next, raised, rfl, rfl⟩ := record_ok recording
  have taken := taken_of_takeOverflow taking
  obtain ⟨archived, -⟩ := Count.add_ok taken.archived
  refine ⟨sequence, version, next, raised, rfl, ?_, taken.beyond⟩
  rw [← taken.refreshed rfl, refresh]
  dsimp only
  rw [archived, taken.beyond, taken.entries, taken.version, taken.sequence, taken.lastUpdated]
  rfl

theorem advanced_entries (log : Changelog) (retention : Nat) (sequence : Count) (entry : ChangelogEntry) :
    (log.advanced retention sequence entry).entries ++ (entry :: log.entries).drop retention =
      entry :: log.entries :=
  List.take_append_drop retention _

theorem countByCategory_congr {a b : List ChangelogEntry}
    (same : a.map (·.category) = b.map (·.category)) : countByCategory a = countByCategory b := by
  have through : ∀ entries : List ChangelogEntry, countByCategory entries =
      (entries.map (·.category)).foldl (fun table category =>
        table.insert category.toText ((table.get? category.toText).getD 0 + 1)) .empty := by
    intro entries
    rw [List.foldl_map]
    rfl
  rw [through, through, same]

theorem advanced_redated (log : Changelog) (retention : Nat) (sequence : Count) (entry : ChangelogEntry)
    (date : Time) : log.advanced retention sequence { entry with date } =
      { log.advanced retention sequence entry with
        lastUpdated := some date, entries := ({ entry with date } :: log.entries).take retention } := by
  cases retention with
  | zero => rfl
  | succ n =>
    have counted : countByCategory ({ entry with date } :: log.entries.take n) =
        countByCategory (entry :: log.entries.take n) := countByCategory_congr rfl
    simp only [advanced, List.take_succ_cons, List.drop_succ_cons, counted,
      Count.ofLength, List.length_cons]

end Changelog

end Waymark
