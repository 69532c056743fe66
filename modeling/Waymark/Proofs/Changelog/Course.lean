import Mathlib.Data.List.Nodup
import Mathlib.Data.List.Range
import Waymark.Proofs.Changelog
import Waymark.Proofs.Fallible
import Waymark.Proofs.Table
import Waymark.Proofs.Text.Decimal

/-! The course of a changelog over any sequence of recordings, takings and refreshments. Entries are numbered
without a gap, each of them is held or was taken out, and the statistics count those that are held.
-/

set_option autoImplicit false

namespace Waymark

namespace Changelog

/-! Names of entries -/

/-- The name of the entry with a number, which a counter need not hold. -/
def entryName (number : Nat) : String := "change_" ++ String.ofList (Text.Decimal.writePadded 3 number)

theorem entryId_eq (number : Count) : entryId number = entryName number.toNat := rfl

theorem entryName_injective : Function.Injective entryName := by
  intro a b same
  have text := congrArg String.toList same
  simp only [entryName, String.toList_append, String.toList_ofList] at text
  have value := congrArg Text.Decimal.value (List.append_cancel_left text)
  rwa [Text.Decimal.value_writePadded, Text.Decimal.value_writePadded] at value

/-! Counting by category -/

variable {log : Changelog} {entries : List ChangelogEntry}

theorem get?_countByCategory (entries : List ChangelogEntry) (name : String) :
    (countByCategory entries).get? name =
      if entries.countP (·.category.toText == name) = 0 then none
      else some (UInt64.ofNat (entries.countP (·.category.toText == name))) := by
  -- The table is a fold from the left, so its last step is that of the last entry.
  induction entries using List.reverseRecOn with
  | nil => rfl
  | append_singleton front entry ih =>
    have step : countByCategory (front ++ [entry]) = (countByCategory front).insert entry.category.toText
        (((countByCategory front).get? entry.category.toText).getD 0 + 1) := List.foldl_concat ..
    rw [step, Table.get?_insert, List.countP_append, List.countP_singleton]
    by_cases here : entry.category.toText = name
    · subst here
      rw [if_pos rfl, ih, if_pos BEq.rfl, if_neg (Nat.succ_ne_zero _), UInt64.ofNat_add]
      split
      · rename_i none
        rw [none]
        rfl
      · rfl
    · have other : ¬(entry.category.toText == name) = true := by simpa using here
      rw [if_neg (Ne.symm here), ih, if_neg other, Nat.add_zero]

theorem toText_injective : Function.Injective Category.toText := by
  intro a b
  cases a <;> cases b <;> decide

theorem counted_of_refreshed (refreshed : log.refresh = log) (few : log.entries.length < Count.limit) :
    log.statistics.totalEntries.toNat = log.entries.length ∧
    (∀ category : Category, (log.statistics.byCategory.get? category.toText).elim 0 (·.toNat) =
      log.entries.countP (·.category == category)) ∧
    ∀ name count, log.statistics.byCategory.get? name = some count →
      0 < count ∧ ∃ category : Category, category.toText = name := by
  have total : log.statistics.totalEntries = Count.ofLength log.entries :=
    congrArg (·.statistics.totalEntries) refreshed.symm
  have table : log.statistics.byCategory = countByCategory log.entries :=
    congrArg (·.statistics.byCategory) refreshed.symm
  -- A counter holds the number of entries of a category, as it holds the number of all.
  have fits : ∀ name, (UInt64.ofNat (log.entries.countP (·.category.toText == name))).toNat =
      log.entries.countP (·.category.toText == name) := by
    intro name
    have := List.countP_le_length (p := fun entry : ChangelogEntry => entry.category.toText == name) (l := log.entries)
    rw [UInt64.toNat_ofNat']
    exact Nat.mod_eq_of_lt (Nat.lt_of_le_of_lt this few)
  refine ⟨?_, fun category => ?_, fun name count found => ?_⟩
  · rw [total]
    exact Nat.mod_eq_of_lt few
  · have same : log.entries.countP (·.category == category) =
        log.entries.countP (·.category.toText == category.toText) := by
      congr 1
      funext entry
      rw [Bool.eq_iff_iff, beq_iff_eq, beq_iff_eq]
      exact toText_injective.eq_iff.symm
    rw [table, get?_countByCategory, same]
    split
    · rename_i none
      rw [none]
      rfl
    · exact fits _
  · rw [table, get?_countByCategory] at found
    split at found
    · cases found
    · rename_i some
      cases found
      obtain ⟨entry, -, named⟩ := List.countP_pos_iff.1 (Nat.pos_of_ne_zero some)
      refine ⟨UInt64.lt_iff_toNat_lt.2 ?_, entry.category, eq_of_beq named⟩
      rw [fits]
      exact Nat.pos_of_ne_zero some

/-! Actions -/

structure Recording where
  category : Category
  summary : String
  projectVersion : Option Version
  now : Time

/-- The entry of a changelog's change of a number, when every change before it was recorded too. -/
def Recording.entry (recording : Recording) (number : Nat) : ChangelogEntry where
  id := entryName number
  version := ⟨1, UInt64.ofNat number, 0⟩
  date := recording.now
  category := recording.category
  summary := recording.summary
  projectVersion := recording.projectVersion

inductive Action where
  | record (recording : Recording)
  | takeOverflow (retention : Nat)
  | refresh

def recordings : List Action → List Recording
  | [] => []
  | .record recording :: later => recording :: recordings later
  | _ :: later => recordings later

/-- A changelog with all entries that it recorded, the newest first, and the batches that were taken out of it,
the latest first. -/
structure Course where
  log : Changelog
  recorded : List ChangelogEntry
  batches : List (List ChangelogEntry)
  deriving DecidableEq

def Course.perform (course : Course) : Action → Except Overflow Course
  | .record change =>
    match course.log.record change.category change.summary change.projectVersion change.now with
    | (log, .ok entry) => .ok { course with log, recorded := entry :: course.recorded }
    | (_, .error overflow) => .error overflow
  | .takeOverflow retention =>
    match course.log.takeOverflow retention with
    | (log, .ok removed) => .ok { course with log, batches := removed :: course.batches }
    | (_, .error overflow) => .error overflow
  | .refresh => .ok { course with log := course.log.refresh }

def run (log : Changelog) (actions : List Action) : Except Overflow Course :=
  actions.foldlM Course.perform ⟨log, [], []⟩

variable {start : Changelog} {course next : Course} {done actions : List Action} {action : Action}
  {recording : Recording} {retention : Nat}

theorem recordings_append (a b : List Action) : recordings (a ++ b) = recordings a ++ recordings b := by
  induction a with
  | nil => rfl
  | cons action a ih => cases action <;> simp [recordings, ih]

theorem recordings_append_silent (silent : recordings [action] = []) :
    recordings (done ++ [action]) = recordings done := by
  rw [recordings_append, silent, List.append_nil]

/-! What each action does -/

theorem Course.perform_record (performed : course.perform (.record recording) = .ok next) :
    ∃ sequence version, course.log.sequence.next = .ok sequence ∧ course.log.version.bumpMinor = .ok version ∧
      next.batches = course.batches ∧
      next.recorded = ⟨entryId sequence, version, recording.now, recording.category, recording.summary,
        recording.projectVersion⟩ :: course.recorded ∧
      next.log = refresh { course.log with
        version, sequence, lastUpdated := some recording.now
        entries := ⟨entryId sequence, version, recording.now, recording.category, recording.summary,
          recording.projectVersion⟩ :: course.log.entries } := by
  simp only [perform] at performed
  split at performed
  · rename_i log entry recorded
    cases performed
    obtain ⟨sequence, version, followed, raised, rfl, rfl⟩ := record_ok recorded
    exact ⟨sequence, version, followed, raised, rfl, rfl, rfl⟩
  · cases performed

theorem Course.perform_takeOverflow (performed : course.perform (.takeOverflow retention) = .ok next) :
    next.recorded = course.recorded ∧
      ∃ removed, next.batches = removed :: course.batches ∧ Taken course.log retention next.log removed := by
  simp only [perform] at performed
  split at performed
  · rename_i log removed taking
    cases performed
    exact ⟨rfl, removed, rfl, taken_of_takeOverflow taking⟩
  · cases performed

/-! Entries and their numbers, whatever the changelog held at first -/

/-- The entries that were recorded stand before the first ones, under the numbers that follow theirs. -/
structure Course.Follows (start : Changelog) (course : Course) : Prop where
  placed : course.log.entries ++ course.batches.flatten = course.recorded ++ start.entries
  sequence : course.log.sequence.toNat = start.sequence.toNat + course.recorded.length
  names : course.recorded.map (·.id) =
    ((List.range' (start.sequence.toNat + 1) course.recorded.length).map entryName).reverse

theorem Course.Follows.perform (follows : course.Follows start) (performed : course.perform action = .ok next) :
    next.Follows start := by
  cases action with
  | record recording =>
    obtain ⟨sequence, version, followed, -, batches, recorded, log⟩ := perform_record performed
    have number : sequence.toNat = start.sequence.toNat + course.recorded.length + 1 := by
      rw [(Count.add_ok followed).2, follows.sequence]
      rfl
    constructor
    case placed =>
      rw [log, batches, recorded, List.cons_append, ← follows.placed]
      rfl
    case sequence =>
      rw [log, recorded, List.length_cons]
      exact number
    case names =>
      rw [recorded, List.map_cons, List.length_cons, follows.names, List.range'_1_concat, List.map_append,
        List.reverse_append, entryId_eq, number, Nat.add_right_comm]
      rfl
  | takeOverflow retention =>
    obtain ⟨recorded, removed, batches, taken⟩ := perform_takeOverflow performed
    constructor
    case placed =>
      rw [batches, List.flatten_cons, ← List.append_assoc, taken.entries, taken.beyond,
        List.take_append_drop, recorded, follows.placed]
    case sequence => rw [taken.sequence, recorded, follows.sequence]
    case names => rw [recorded, follows.names]
  | refresh =>
    cases performed
    exact ⟨follows.placed, follows.sequence, follows.names⟩

theorem follows_of_run (ran : start.run actions = .ok course) : course.Follows start :=
  Fallible.foldlM_ok (motive := fun _ course => course.Follows start) (fun follows performed => follows.perform performed)
    ⟨List.append_nil _, rfl, rfl⟩ ran

theorem Course.Follows.nodup (follows : course.Follows start) : (course.recorded.map (·.id)).Nodup := by
  rw [follows.names, List.nodup_reverse]
  exact (List.nodup_range' 1).map entryName_injective

theorem Course.Follows.number (follows : course.Follows start) {entry : ChangelogEntry}
    (among : entry ∈ course.recorded) : ∃ number, start.sequence.toNat < number ∧ entry.id = entryName number := by
  have named : entry.id ∈ course.recorded.map (·.id) := List.mem_map_of_mem among
  rw [follows.names, List.mem_reverse] at named
  obtain ⟨number, within, same⟩ := List.mem_map.1 named
  exact ⟨number, (List.mem_range'_1.1 within).1, same.symm⟩

/-! The course of a changelog that was empty -/

structure Course.Tracks (done : List Action) (course : Course) : Prop where
  follows : course.Follows .empty
  version : course.log.version.IsMinor (recordings done).length
  recorded : course.recorded =
    ((recordings done).mapIdx fun index recording => recording.entry (index + 1)).reverse
  archived : course.log.statistics.archivedEntries.toNat = course.batches.flatten.length
  refreshed : course.log.refresh = course.log

theorem Course.Tracks.sequence (tracks : course.Tracks done) :
    course.log.sequence.toNat = (recordings done).length := by
  rw [tracks.follows.sequence, tracks.recorded, List.length_reverse, List.length_mapIdx]
  exact Nat.zero_add _

theorem Course.Tracks.placed (tracks : course.Tracks done) :
    course.log.entries ++ course.batches.flatten = course.recorded :=
  tracks.follows.placed.trans (List.append_nil _)

theorem Course.Tracks.length (tracks : course.Tracks done) :
    course.log.entries.length + course.batches.flatten.length = (recordings done).length := by
  rw [← List.length_append, tracks.placed, tracks.recorded, List.length_reverse, List.length_mapIdx]

theorem Course.Tracks.few (tracks : course.Tracks done) : (recordings done).length < Count.limit :=
  tracks.sequence ▸ UInt64.toNat_lt _

theorem Course.tracks_empty : Course.Tracks [] ⟨empty, [], []⟩ :=
  ⟨⟨rfl, rfl, rfl⟩, ⟨rfl, rfl, rfl⟩, rfl, rfl, rfl⟩

theorem Course.Tracks.count_batch (tracks : course.Tracks done) {removed : List ChangelogEntry} {most : Nat}
    (beyond : removed = course.log.entries.drop most) : (Count.ofLength removed).toNat = removed.length := by
  have length := tracks.length
  refine Nat.mod_eq_of_lt (Nat.lt_of_le_of_lt ?_ tracks.few)
  rw [beyond, List.length_drop]
  omega

theorem Course.Tracks.perform (tracks : course.Tracks done) (performed : course.perform action = .ok next) :
    next.Tracks (done ++ [action]) := by
  have follows := tracks.follows.perform performed
  -- Recording is the only action that the recordings grow by.
  cases action with
  | record recording =>
    obtain ⟨sequence, version, followed, raised, batches, recorded, log⟩ := perform_record performed
    have more : recordings (done ++ [.record recording]) = recordings done ++ [recording] := recordings_append _ _
    have minor : version.IsMinor ((recordings done).length + 1) := tracks.version.bump raised
    have number : sequence.toNat = (recordings done).length + 1 := by
      rw [(Count.add_ok followed).2, tracks.sequence]
      rfl
    constructor
    case follows => exact follows
    case version =>
      rw [log, more, List.length_append]
      exact minor
    case recorded =>
      rw [recorded, more, List.mapIdx_concat, List.reverse_append, tracks.recorded, entryId_eq, number, minor.eq]
      rfl
    case archived =>
      rw [log, batches]
      exact tracks.archived
    case refreshed =>
      rw [log]
      rfl
  | takeOverflow retention =>
    obtain ⟨recorded, removed, batches, taken⟩ := perform_takeOverflow performed
    have same : recordings (done ++ [.takeOverflow retention]) = recordings done := recordings_append_silent rfl
    constructor
    case follows => exact follows
    case version =>
      rw [taken.version, same]
      exact tracks.version
    case recorded => rw [recorded, same, tracks.recorded]
    case archived =>
      rw [(Count.add_ok taken.archived).2, tracks.archived, tracks.count_batch taken.beyond, batches,
        List.flatten_cons, List.length_append, Nat.add_comm]
    case refreshed => exact taken.refreshed tracks.refreshed
  | refresh =>
    have same : recordings (done ++ [.refresh]) = recordings done := recordings_append_silent rfl
    cases performed
    constructor
    case follows => exact follows
    case version => exact same ▸ tracks.version
    case recorded => exact same ▸ tracks.recorded
    case archived => exact tracks.archived
    case refreshed => rfl

theorem Course.tracks_of_run (ran : empty.run actions = .ok course) : course.Tracks actions :=
  Fallible.foldlM_ok (motive := fun done course => course.Tracks done) (fun tracks performed => tracks.perform performed)
    tracks_empty ran

/-- Only a number that no counter holds stops a course. -/
theorem Course.Tracks.goes_on (tracks : course.Tracks done)
    (few : (recordings (done ++ [action])).length < Count.limit) : ∃ next, course.perform action = .ok next := by
  have length := tracks.length
  have reached := tracks.sequence
  have minor := tracks.version.2.1
  have archived := tracks.archived
  have one : (1 : Count).toNat = 1 := rfl
  rw [recordings_append, List.length_append] at few
  -- No counter is ever above the number of recordings, so none of them can be the first to overflow.
  cases action with
  | record recording =>
    have more : (recordings [.record recording]).length = 1 := rfl
    have sequence : Count.add course.log.sequence 1 = .ok _ := Count.add_of_fits (by omega)
    have raised : Count.add course.log.version.minor 1 = .ok _ := Count.add_of_fits (by omega)
    simp only [Course.perform, record, sequence, Version.bumpMinor, Count.next, raised, bind, Except.bind, pure, Except.pure]
    exact ⟨_, rfl⟩
  | takeOverflow retention =>
    by_cases fits : course.log.entries.length ≤ retention
    · simp only [Course.perform, takeOverflow, if_pos fits]
      exact ⟨_, rfl⟩
    · have counted : (Count.ofLength (course.log.entries.drop retention)).toNat ≤
          (course.log.entries.drop retention).length := by
        rw [Count.ofLength, UInt64.toNat_ofNat']
        exact Nat.mod_le _ _
      rw [List.length_drop] at counted
      have added : course.log.statistics.archivedEntries.add
        (Count.ofLength (course.log.entries.drop retention)) = .ok _ := Count.add_of_fits (by omega)
      simp only [Course.perform, takeOverflow, if_neg fits, added]
      exact ⟨_, rfl⟩
  | refresh => exact ⟨_, rfl⟩

theorem run_succeeds (few : (recordings actions).length < Count.limit) :
    ∃ course, empty.run actions = .ok course := by
  refine Fallible.exists_foldlM (motive := fun done course => course.Tracks done) ?_ Course.tracks_empty
  intro done action rest course parts tracks
  have fewer : (recordings (done ++ [action])).length < Count.limit := by
    rw [parts, ← List.singleton_append, ← List.append_assoc, recordings_append, List.length_append] at few
    omega
  obtain ⟨next, performed⟩ := tracks.goes_on fewer
  exact ⟨next, performed, tracks.perform performed⟩

theorem length_le_of_taken {course : Course} (ran : start.run (done ++ [.takeOverflow retention]) = .ok course) :
    course.log.entries.length ≤ retention := by
  rw [run, List.foldlM_append] at ran
  obtain ⟨before, -, ran⟩ := Fallible.bind_ok ran
  rw [List.foldlM_cons] at ran
  obtain ⟨last, performed, ran⟩ := Fallible.bind_ok ran
  cases ran
  obtain ⟨-, removed, -, taken⟩ := Course.perform_takeOverflow performed
  rw [taken.entries]
  exact List.length_take_le _ _

/-- What a changelog that was empty is to hold and to say of itself after some actions. -/
structure Course.Accounts (actions : List Action) (course : Course) : Prop where
  sequence : course.log.sequence.toNat = (recordings actions).length
  version : course.log.version = ⟨1, UInt64.ofNat (recordings actions).length, 0⟩
  recorded : course.recorded =
    ((recordings actions).mapIdx fun index recording => recording.entry (index + 1)).reverse
  placed : course.log.entries ++ course.batches.flatten = course.recorded
  distinct : (course.recorded.map (·.id)).Nodup
  held : course.log.statistics.totalEntries.toNat = course.log.entries.length
  categories : ∀ category : Category,
    (course.log.statistics.byCategory.get? category.toText).elim 0 (·.toNat) =
      course.log.entries.countP (·.category == category)
  occupied : ∀ name count, course.log.statistics.byCategory.get? name = some count →
    0 < count ∧ ∃ category : Category, category.toText = name
  archived : course.log.statistics.archivedEntries.toNat = course.batches.flatten.length
  whole : course.log.statistics.totalEntries.toNat + course.log.statistics.archivedEntries.toNat =
    (recordings actions).length
  retained : ∀ retention, actions.getLast? = some (.takeOverflow retention) →
    course.log.entries.length ≤ retention

/-- Actions can be carried out on an empty changelog exactly if a counter holds the number of recordings, and the
changelog accounts for every one of them. -/
theorem run_accounted (actions : List Action) :
    ((∃ course, empty.run actions = .ok course) ↔ (recordings actions).length < Count.limit) ∧
      ∀ course, empty.run actions = .ok course → course.Accounts actions := by
  refine ⟨⟨fun ⟨course, ran⟩ => (Course.tracks_of_run ran).few, run_succeeds⟩, fun course ran => ?_⟩
  have tracks := Course.tracks_of_run ran
  have length := tracks.length
  have few := tracks.few
  obtain ⟨held, categories, occupied⟩ := counted_of_refreshed tracks.refreshed (by omega)
  refine ⟨tracks.sequence, tracks.version.eq, tracks.recorded, tracks.placed, tracks.follows.nodup, held,
    categories, occupied, tracks.archived, ?_, fun retention last => ?_⟩
  · rw [held, tracks.archived, length]
  · obtain ⟨done, rfl⟩ := List.getLast?_eq_some_iff.1 last
    exact length_le_of_taken ran

/-- Three changes, the oldest of which was taken out before the last one came. -/
def threeChanges : List Action :=
  [.record ⟨.feature, "parser", none, .epoch⟩, .record ⟨.bug, "crash", some .first, .epoch⟩, .takeOverflow 1,
    .refresh, .record ⟨.bug, "leak", none, .epoch⟩, .takeOverflow 2]

theorem run_accounted_threeChanges : ∃ course, empty.run threeChanges = .ok course ∧
    course.Accounts threeChanges ∧ course.log.entries.map (·.id) = ["change_003", "change_002"] ∧
    course.batches.map (·.map (·.id)) = [[], ["change_001"]] := by
  obtain ⟨course, ran⟩ := (run_accounted threeChanges).1.2 (by decide)
  have known : (empty.run threeChanges).toOption.map (fun course =>
      (course.log.entries.map (·.id), course.batches.map (·.map (·.id)))) =
        some (["change_003", "change_002"], [[], ["change_001"]]) := by
    decide +kernel
  rw [ran] at known
  obtain ⟨entries, batches⟩ := Prod.mk.inj (Option.some.inj known)
  exact ⟨course, ran, (run_accounted threeChanges).2 course ran, entries, batches⟩

end Changelog

end Waymark
