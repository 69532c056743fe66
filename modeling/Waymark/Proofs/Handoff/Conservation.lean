import Waymark.Proofs.Handoff.Run
import Waymark.Proofs.Store.Entries

/-! What becomes of changelog entries over a whole run. A handoff adds the entry that it records and moves
others into an archive, so that every entry is held once as long as each archive has a name of its own.
Archives are named by the second, and two of one second are one file.
-/

set_option autoImplicit false

namespace Waymark.Synchronizer

open Store

variable {store : Store} {home : Home} {start tree before after : Tree} {phase next : Phase}
  {sync : Synchronizer} {request : HandoffRequest} {moment : Moment} {inherited : Inherited}
  {disk ended : Disk} {report : HandoffReport} {batch : Batch} {log : List Char} {now : Time}
  {commits : List Commit} {commit : Commit} {name : String} {entry : ChangelogEntry}

def Commit.entry? (commit : Commit) : Option ChangelogEntry :=
  (commit.batch.changelog.entries ++ commit.batch.archived).head?

def Commit.archiveName? (commit : Commit) : Option String := commit.batch.archiveName? commit.clock.stamped

/-- No archive of a run takes the place of another one, or of a file that was there before. -/
structure ArchivesApart (home : Home) (start : Tree) (commits : List Commit) : Prop where
  distinct : (commits.filterMap Commit.archiveName?).Nodup
  fresh : ∀ name ∈ commits.filterMap Commit.archiveName?, start.node? (archivePlace home name) = none

theorem ArchivesApart.earlier (apart : ArchivesApart home start (commit :: commits)) :
    ArchivesApart home start commits where
  distinct := by
    have distinct := apart.distinct
    rw [List.filterMap_cons] at distinct
    split at distinct
    · exact distinct
    · exact (List.nodup_cons.1 distinct).2
  fresh name among := apart.fresh name (by
    rw [List.filterMap_cons]
    split
    · exact among
    · exact List.mem_cons_of_mem _ among)

theorem Current.recorded (current : Current store phase tree) (held : phase.inherited? = some inherited) :
    store.recorded tree = inherited.changelog.entries := by
  obtain ⟨stored, loaded, same⟩ := current inherited held
  rw [Store.recorded, loaded, same]
  cases stored with
  | none => rfl
  | some log => rfl

/-! One step -/

/-- A handoff adds its entry to those that are held, less the ones whose archive it replaces. -/
theorem entries_of_saved (inherits : store.recorded before = inherited.changelog.entries)
    (saved : Saved store home (batch.files log now) before after)
    (newest : batch.changelog.entries ++ batch.archived = entry :: inherited.changelog.entries) :
    store.entries home after + batch.overwritten home before now = store.entries home before + {entry} := by
  have recorded : store.recorded after = batch.changelog.entries := by
    rw [Store.recorded, loadChangelog_of_saved saved]
  have moved := archived_of_saved saved
  have whole : (batch.changelog.entries : Multiset ChangelogEntry) + batch.archived =
      inherited.changelog.entries + {entry} := by
    rw [Multiset.coe_add, newest, ← Multiset.cons_coe, add_comm, Multiset.singleton_add]
  calc store.entries home after + batch.overwritten home before now
      = batch.changelog.entries + (archived home after + batch.overwritten home before now) := by
        rw [entries, recorded, add_assoc]
    _ = batch.changelog.entries + (archived home before + batch.archived) := by rw [moved]
    _ = (batch.changelog.entries + batch.archived) + archived home before := by ac_rfl
    _ = inherited.changelog.entries + {entry} + archived home before := by rw [whole]
    _ = store.entries home before + {entry} := by
        rw [entries, inherits]
        ac_rfl

theorem entries_of_closes (housed : Housed sync.store home disk.tree)
    (current : Current sync.store phase disk.tree)
    (closes : Closes sync phase request moment disk.tree batch)
    (step : sync.outgoing phase request moment disk = (.ok report, next, ended)) :
    ∃ entry, Commit.entry? ⟨batch, moment.clock⟩ = some entry ∧
      sync.store.entries home ended.tree + batch.overwritten home disk.tree moment.clock.stamped =
        sync.store.entries home disk.tree + {entry} := by
  obtain ⟨log, -, saved⟩ := saved_of_closes housed closes step
  obtain ⟨inherited, session, opened, closed⟩ := closes
  obtain ⟨entry, -, newest⟩ := (closing_once closed).entry
  refine ⟨entry, ?_, entries_of_saved ((current.opened opened).recorded rfl) saved newest⟩
  rw [Commit.entry?, newest]
  rfl

theorem entries_of_same_archive {phase' next' : Phase} {request' : HandoffRequest} {later : Moment}
    {disk' ended' : Disk} {report' : HandoffReport} {batch' : Batch} (housed : Housed sync.store home disk.tree)
    (closes : Closes sync phase request moment disk.tree batch)
    (step : sync.outgoing phase request moment disk = (.ok report, next, ended))
    (follows : disk'.tree = ended.tree) (current : Current sync.store phase' disk'.tree)
    (closes' : Closes sync phase' request' later disk'.tree batch')
    (step' : sync.outgoing phase' request' later disk' = (.ok report', next', ended'))
    (named : batch.archiveName? moment.clock.stamped = some name) (same : batch'.archiveName? later.clock.stamped = some name) :
    ∃ entry, Commit.entry? ⟨batch', later.clock⟩ = some entry ∧
      sync.store.entries home ended'.tree + batch.archived = sync.store.entries home ended.tree + {entry} := by
  obtain ⟨log, -, saved⟩ := saved_of_closes housed closes step
  have housed' : Housed sync.store home disk'.tree := follows ▸ saved.housed
  obtain ⟨entry, newest, balance⟩ := entries_of_closes housed' current closes' step'
  rw [Batch.overwritten, same, Option.elim_some, follows, archivedAt_own_of_saved saved named] at balance
  exact ⟨entry, newest, balance⟩

/-! Whole runs -/

theorem Run.archivedAt (run : Run store start commits phase tree) (housed : Housed store home start)
    (unused : name ∉ commits.filterMap Commit.archiveName?) :
    archivedAt home tree name = archivedAt home start name := by
  induction run with
  | start => rfl
  | quiet earlier step ih =>
    have same := step.unchanged (earlier.housed housed)
    rw [archivedAt_congr fun is => same.kept _ (archivePlace_ne_temporary is), ih unused]
  | @committed sync commits phase next request moment disk after report batch earlier ofStore closes step ih =>
    subst ofStore
    obtain ⟨log, -, saved⟩ := saved_of_closes (earlier.housed housed) closes step
    rw [List.filterMap_cons] at unused
    have other : batch.archiveName? moment.clock.stamped ≠ some name := by
      intro same
      have named : Commit.archiveName? ⟨batch, moment.clock⟩ = some name := same
      simp [named] at unused
    have rest : name ∉ commits.filterMap Commit.archiveName? := by
      intro among
      split at unused
      · exact unused among
      · exact unused (List.mem_cons_of_mem _ among)
    rw [archivedAt_of_saved saved other, ih rest]

theorem Run.overwritten {clock : Clock} (earlier : Run store start commits phase tree)
    (housed : Housed store home start) (apart : ArchivesApart home start (⟨batch, clock⟩ :: commits)) :
    batch.overwritten home tree clock.stamped = 0 := by
  cases named : batch.archiveName? clock.stamped with
  | none => rw [Batch.overwritten, named, Option.elim_none]
  | some name =>
    have own : Commit.archiveName? ⟨batch, clock⟩ = some name := named
    have distinct := apart.distinct
    have fresh := apart.fresh
    rw [List.filterMap_cons, own] at distinct fresh
    have unused := (List.nodup_cons.1 distinct).1
    have nothing : Store.archivedAt home start name = 0 := by
      unfold Store.archivedAt
      rw [fresh name List.mem_cons_self]
      split
      · rename_i same
        cases same
      · rfl
    rw [Batch.overwritten, named, Option.elim_some, earlier.archivedAt housed unused, nothing]

/-- After any number of handoffs every entry that was committed is held once more than at the start, in
the changelog or in an archive, and so is every entry that was held before. -/
theorem Run.entries_conserved (run : Run store start commits phase tree) (housed : Housed store home start)
    (apart : ArchivesApart home start commits) :
    (∀ commit ∈ commits, commit.entry?.isSome) ∧
      store.entries home tree = store.entries home start + (commits.filterMap Commit.entry? : List ChangelogEntry) := by
  induction run with
  | start => exact ⟨by simp, (add_zero _).symm⟩
  | quiet earlier step ih =>
    rw [entries_of_unchanged (step.unchanged (earlier.housed housed))]
    exact ih apart
  | @committed sync commits phase next request moment disk after report batch earlier ofStore closes step ih =>
    subst ofStore
    obtain ⟨entry, newest, balance⟩ :=
      entries_of_closes (earlier.housed housed) (earlier.current housed) closes step
    obtain ⟨all, held⟩ := ih apart.earlier
    rw [earlier.overwritten housed apart, add_zero, held, add_assoc] at balance
    constructor
    · intro commit among
      rcases List.mem_cons.1 among with rfl | among
      · rw [newest, Option.isSome_some]
      · exact all commit among
    · rw [balance, List.filterMap_cons, newest, ← Multiset.cons_coe, ← Multiset.singleton_add,
        add_comm ({entry} : Multiset ChangelogEntry)]

/-! Archives of one second -/

def archiving : Synchronizer :=
  { rooted with retention := { rooted.retention with changelogRetention := 0 } }

theorem half_lt_second : 500000000 < 1000000000 := by decide

def sameSecond : Moment := ⟨({ Time.epoch with nanosecond := ⟨500000000, half_lt_second⟩ } : Time), ⟨3⟩, ⟨4⟩⟩

theorem stamp_sameSecond : sameSecond.clock.stamped.stamp = midnight.clock.stamped.stamp := by decide +kernel

def nothing : Inherited := ⟨none, .empty, none⟩

/-- What the first handoff of the store writes, and what it leaves. -/
def firstBatch : Except Overflow Batch :=
  archiving.closing nothing (archiving.newSession nothing midnight) unfinished midnight.now

def firstLeft : Disk := (archiving.outgoing .idle unfinished midnight (.ofTree Tree.empty 0)).2.2

def secondHandoff (first : Batch) (later : Moment) : Except HandoffError HandoffReport × Phase × Disk :=
  archiving.outgoing (.loaded ⟨some first.session, first.changelog, none⟩) unfinished later
    (.ofTree firstLeft.tree 0)

theorem outcomes : (archiving.outgoing .idle unfinished midnight (.ofTree Tree.empty 0)).1 =
      .ok ⟨⟨1⟩, ⟨1, 1, 0⟩, ["log"], 1⟩ ∧
    ∃ batch ∈ firstBatch.toOption, (secondHandoff batch sameSecond).1 = .ok ⟨⟨3⟩, ⟨1, 2, 0⟩, ["log"], 1⟩ ∧
      (secondHandoff batch oneOClock).1 = .ok ⟨⟨3⟩, ⟨1, 2, 0⟩, ["log"], 1⟩ := by decide +kernel

theorem first_succeeds : archiving.outgoing .idle unfinished midnight (.ofTree Tree.empty 0) =
    (.ok ⟨⟨1⟩, ⟨1, 1, 0⟩, ["log"], 1⟩, .idle, firstLeft) := by
  rw [firstLeft]
  exact outgoing_of_outcome outcomes.1

theorem second_succeeds {batch : Batch} {later : Moment} (first : firstBatch = .ok batch)
    (among : later = sameSecond ∨ later = oneOClock) :
    ∃ after, secondHandoff batch later = (.ok ⟨⟨3⟩, ⟨1, 2, 0⟩, ["log"], 1⟩, .idle, after) := by
  obtain ⟨batch', closed, inSecond, inHour⟩ := outcomes.2
  rw [first] at closed
  obtain rfl : batch = batch' := Option.some.inj closed
  rcases among with rfl | rfl
  · exact ⟨_, outgoing_of_outcome inSecond⟩
  · exact ⟨_, outgoing_of_outcome inHour⟩

theorem opened_empty : archiving.opened .idle Tree.empty midnight =
    .ok (nothing, archiving.newSession nothing midnight) := by
  have read : (archiving.opened .idle Tree.empty midnight).toOption =
      some (nothing, archiving.newSession nothing midnight) := by decide +kernel
  cases opened : archiving.opened .idle Tree.empty midnight with
  | error error =>
    rw [opened] at read
    cases read
  | ok found =>
    rw [opened] at read
    exact congrArg Except.ok (Option.some.inj read)

theorem first_closes : ∃ batch, firstBatch = .ok batch ∧
    Closes archiving .idle unfinished midnight Tree.empty batch := by
  obtain ⟨inherited, session, batch, opened, closed, -, -, -⟩ := outgoing_ok first_succeeds
  have opened' : archiving.opened .idle Tree.empty midnight = .ok (inherited, session) := opened
  rw [opened_empty] at opened'
  cases opened'
  exact ⟨batch, closed, _, _, opened_empty, closed⟩

theorem first_archived {batch : Batch} (first : firstBatch = .ok batch) : ∃ entry,
    entry.version = batch.changelog.version ∧ batch.changelog.entries = [] ∧ batch.archived = [entry] ∧
      batch.archiveName? midnight.clock.stamped = some (archiveName none midnight.clock.stamped) := by
  obtain ⟨entry, version, kept, archived, checked⟩ := closing_archived first rfl
  refine ⟨entry, version, kept, archived, ?_⟩
  rw [archiveName?_of_archived (by simp [archived]), checked]
  rfl

theorem second_loads {batch : Batch} (closes : Closes archiving .idle unfinished midnight Tree.empty batch)
    (later : Moment) : ∃ briefing, archiving.incoming .idle firstLeft.tree later =
      (.ok briefing, .loaded ⟨some batch.session, batch.changelog, none⟩) := by
  have housed : Housed archiving.store (.ofRoot []) (Disk.ofTree Tree.empty 0).tree := housed_empty
  obtain ⟨log, -, saved⟩ := saved_of_closes housed closes first_succeeds
  obtain ⟨found, loads⟩ := bare_loads
  have readable : Readable archiving.store (.ofRoot []) (Disk.ofTree Tree.empty 0).tree := readable_of_load housed loads
  obtain ⟨briefing, inherited, loaded, previous, changelog, -⟩ := load_of_saved readable saved later
  obtain ⟨-, summary, -, loadedSummary, -, version⟩ := load_ok loaded
  -- No summary was there before, and a handoff writes none.
  have apart := saved.others .summary fun file member =>
    (files_apart (.ofRoot []) batch (batch.log log) midnight.clock.stamped file member).1
  have missing : archiving.store.loadSummary firstLeft.tree = .ok none := load_congr_read apart
  rw [missing] at loadedSummary
  cases loadedSummary
  obtain ⟨_, _, _⟩ := inherited
  cases previous
  cases changelog
  cases version
  exact ⟨briefing, incoming_of_load loaded⟩

theorem entries_empty : archiving.store.entries (.ofRoot []) Tree.empty = 0 := by
  have none : archiving.store.loadChangelog Tree.empty = .ok none := rfl
  have recorded : archiving.store.recorded Tree.empty = 0 := by rw [Store.recorded, none]
  have names : archiveNames (.ofRoot []) Tree.empty = ∅ := by simp [archiveNames, Tree.namesIn, Tree.empty]
  have archived : archived (.ofRoot []) Tree.empty = 0 := by rw [Store.archived, names, Finset.sum_empty]
  rw [entries, recorded, archived, add_zero]

theorem fresh_empty (name : String) : Tree.empty.node? (archivePlace (.ofRoot []) name) = none := by
  rw [Tree.node?_eq_item? _ (by simp [archivePlace])]
  rfl

theorem apart_empty (commit : Commit) : ArchivesApart (.ofRoot []) Tree.empty [commit] where
  distinct := by
    rw [List.filterMap_cons]
    split <;> simp
  fresh name _ := fresh_empty name

theorem first_run {batch : Batch} (closes : Closes archiving .idle unfinished midnight Tree.empty batch) :
    Run archiving.store Tree.empty [⟨batch, midnight.clock⟩] .idle firstLeft.tree :=
  .committed (show Run _ _ _ _ (Disk.ofTree Tree.empty 0).tree from .start) rfl closes first_succeeds

theorem second_closes {batch : Batch} {later : Moment} {last : Disk}
    (closes : Closes archiving .idle unfinished midnight Tree.empty batch)
    (second : secondHandoff batch later = (.ok report, .idle, last)) : ∃ batch' entry,
      Closes archiving (.loaded ⟨some batch.session, batch.changelog, none⟩) unfinished later
        (Disk.ofTree firstLeft.tree 0).tree batch' ∧
      Run archiving.store Tree.empty [⟨batch', later.clock⟩, ⟨batch, midnight.clock⟩] .idle last.tree ∧
      batch'.archived = entry :: batch.changelog.entries ∧ batch'.changelog.entries = [] ∧
      batch.changelog.version.bumpMinor = .ok entry.version ∧
      batch'.archiveName? later.clock.stamped = some (archiveName none later.clock.stamped) := by
  obtain ⟨inherited, session, batch', opened, closed, -, -, -⟩ := outgoing_ok second
  have inherits : inherited = ⟨some batch.session, batch.changelog, none⟩ :=
    (congrArg Prod.fst (Except.ok.inj opened)).symm
  have closes' : Closes archiving (.loaded ⟨some batch.session, batch.changelog, none⟩) unfinished later
      (Disk.ofTree firstLeft.tree 0).tree batch' := ⟨inherited, session, opened, closed⟩
  obtain ⟨entry, version, kept, archived, checked⟩ := closing_archived closed rfl
  have raised := (closing_once closed).version
  rw [inherits] at archived checked raised
  obtain ⟨briefing, loads⟩ := second_loads closes later
  -- The second synchronizer has read what the first one wrote, so its handoff continues the run.
  have run : Run archiving.store Tree.empty [⟨batch, midnight.clock⟩]
      (.loaded ⟨some batch.session, batch.changelog, none⟩) (Disk.ofTree firstLeft.tree 0).tree := by
    rw [Disk.tree_ofTree]
    exact (first_run closes).quiet (.incoming rfl loads)
  refine ⟨batch', entry, closes', run.committed rfl closes' second, archived, kept, version ▸ raised, ?_⟩
  rw [archiveName?_of_archived (by simp [archived]), checked]

/-- Two handoffs of different seconds, each of which archives its entry. -/
theorem Run.entries_conserved_archiving : ∃ (batch batch' : Batch) (last : Disk),
    Run archiving.store Tree.empty [⟨batch', oneOClock.clock⟩, ⟨batch, midnight.clock⟩] .idle last.tree ∧
    Housed archiving.store (.ofRoot []) Tree.empty ∧
    ArchivesApart (.ofRoot []) Tree.empty [⟨batch', oneOClock.clock⟩, ⟨batch, midnight.clock⟩] ∧
    batch.archived.length = 1 ∧ batch'.archived.length = 1 ∧
    archiving.store.entries (.ofRoot []) last.tree = archiving.store.entries (.ofRoot []) Tree.empty +
      ([⟨batch', oneOClock.clock⟩, ⟨batch, midnight.clock⟩].filterMap Commit.entry? : List ChangelogEntry) := by
  obtain ⟨batch, first, closes⟩ := first_closes
  obtain ⟨last, second⟩ := second_succeeds first (.inr rfl)
  obtain ⟨batch', entry', -, run, archived', -, -, named'⟩ := second_closes closes second
  obtain ⟨entry, -, kept, archived, named⟩ := first_archived first
  have apart : ArchivesApart (.ofRoot []) Tree.empty [⟨batch', oneOClock.clock⟩, ⟨batch, midnight.clock⟩] := by
    refine ⟨?_, fun name _ => fresh_empty name⟩
    have names : List.filterMap Commit.archiveName? [⟨batch', oneOClock.clock⟩, ⟨batch, midnight.clock⟩] =
        [archiveName none oneOClock.clock.stamped, archiveName none midnight.clock.stamped] := by
      simp only [List.filterMap_cons, List.filterMap_nil, Commit.archiveName?, named, named']
    rw [names]
    decide +kernel
  refine ⟨batch, batch', last, run, housed_empty, apart, ?_, ?_, (Run.entries_conserved run housed_empty apart).2⟩
  · rw [archived]
    rfl
  · rw [archived', kept]
    rfl

/-- Two handoffs of one second, each of which archives its entry: the second archive takes the place of
the first one, and the first entry is lost. -/
theorem entry_lost_within_second : ∃ first second briefing inherited last entry,
    archiving.outgoing .idle unfinished midnight (.ofTree Tree.empty 0) = (.ok first, .idle, firstLeft) ∧
    archiving.incoming .idle firstLeft.tree sameSecond = (.ok briefing, .loaded inherited) ∧
    archiving.outgoing (.loaded inherited) unfinished sameSecond (.ofTree firstLeft.tree 0) =
      (.ok second, .idle, last) ∧
    entry ∈ archiving.store.entries (.ofRoot []) firstLeft.tree ∧ entry ∉ archiving.store.entries (.ofRoot []) last.tree := by
  obtain ⟨batch, closed, closes⟩ := first_closes
  obtain ⟨briefing, loads⟩ := second_loads closes sameSecond
  obtain ⟨last, second⟩ := second_succeeds closed (.inl rfl)
  have bare : Housed archiving.store (.ofRoot []) (Disk.ofTree Tree.empty 0).tree := housed_empty
  obtain ⟨entry, version, kept, archived, named⟩ := first_archived closed
  -- After the first handoff nothing but its entry is held.
  have held : archiving.store.entries (.ofRoot []) firstLeft.tree = {entry} := by
    obtain ⟨newest, recorded, balance⟩ := entries_of_closes bare (current_idle _ _) closes first_succeeds
    rw [Commit.entry?, kept, archived] at recorded
    cases recorded
    have nothing : batch.overwritten (.ofRoot []) (Disk.ofTree Tree.empty 0).tree midnight.clock.stamped = 0 :=
      Run.overwritten .start housed_empty (apart_empty _)
    rw [nothing, add_zero, Disk.tree_ofTree, entries_empty, zero_add] at balance
    exact balance
  obtain ⟨batch', entry', closes', -, archived', kept', raised, named'⟩ := second_closes closes second
  rw [archiveName_congr none stamp_sameSecond] at named'
  have current : Current archiving.store (.loaded ⟨some batch.session, batch.changelog, none⟩)
      (Disk.ofTree firstLeft.tree 0).tree := by
    have run := first_run closes
    rw [Disk.tree_ofTree]
    exact (run.quiet (.incoming rfl loads)).current housed_empty
  obtain ⟨newest, recorded, balance⟩ := entries_of_same_archive bare closes first_succeeds
    (Disk.tree_ofTree firstLeft.tree 0) current closes' second named named'
  refine ⟨_, _, _, _, last, entry, first_succeeds, loads, second, ?_, ?_⟩
  · rw [held]
    exact Multiset.mem_singleton_self entry
  · intro lost
    -- What was held gives way to the second entry, which is of another version.
    rw [archived, held, add_comm] at balance
    have left : archiving.store.entries (.ofRoot []) last.tree = {newest} := add_left_cancel balance
    rw [left, Multiset.mem_singleton] at lost
    rw [Commit.entry?, kept', archived'] at recorded
    have same : entry' = newest := Option.some.inj recorded
    apply Version.bumpMinor_ne raised
    rw [← version, same, lost]

end Waymark.Synchronizer
