import Waymark.Proofs.Handoff.Continuity

/-! Runs of the synchronizers of one store, one synchronizer after another. Between two handoffs that are
committed no document changes, and what a phase has inherited stays what is stored.
-/

set_option autoImplicit false

namespace Waymark.Synchronizer

open Store

variable {store : Store} {home : Home} {start tree before after : Tree} {phase next : Phase}
  {sync : Synchronizer} {request : HandoffRequest} {moment : Moment} {inherited : Inherited}
  {disk ended : Disk} {report : HandoffReport} {batch : Batch}

def Closes (sync : Synchronizer) (phase : Phase) (request : HandoffRequest) (moment : Moment) (tree : Tree)
    (batch : Batch) : Prop :=
  ∃ inherited session, sync.opened phase tree moment = .ok (inherited, session) ∧
    sync.closing inherited session request moment.now = .ok batch

/-- A step that commits nothing: each operation in any phase, a handoff that fails and leaves nothing
behind, and another synchronizer that takes over. -/
inductive Quiet (store : Store) : Phase → Tree → Phase → Tree → Prop where
  /-- A session that is open is given up. -/
  | restart {phase : Phase} {tree : Tree} : Quiet store phase tree .idle tree
  | incoming {sync : Synchronizer} {phase next : Phase} {tree : Tree} {moment : Moment}
    {result : Except HandoffError Briefing} (ofStore : sync.store = store)
    (step : sync.incoming phase tree moment = (result, next)) : Quiet store phase tree next tree
  | begin {sync : Synchronizer} {phase next : Phase} {tree : Tree} {moment : Moment}
    {result : Except HandoffError Session} (ofStore : sync.store = store)
    (step : sync.begin phase moment = (result, next)) : Quiet store phase tree next tree
  | recordTask {phase next : Phase} {tree : Tree} {text : String} {result : Except HandoffError Unit}
    (step : Synchronizer.recordTask phase text = (result, next)) : Quiet store phase tree next tree
  | failed {sync : Synchronizer} {phase next : Phase} {request : HandoffRequest} {moment : Moment}
    {disk after : Disk} {error : HandoffError} (ofStore : sync.store = store)
    (step : sync.outgoing phase request moment disk = (.error error, next, after)) (whole : ¬Torn error) :
    Quiet store phase disk.tree next after.tree

structure Commit where
  batch : Batch
  clock : Clock

/-- Steps in sequence, from the idle phase and a tree on, with the handoffs that were committed, the
last one first. A handoff that left something behind ends a run. -/
inductive Run (store : Store) (start : Tree) : List Commit → Phase → Tree → Prop where
  | start : Run store start [] .idle start
  | quiet {commits : List Commit} {phase next : Phase} {before after : Tree}
    (earlier : Run store start commits phase before) (step : Quiet store phase before next after) :
    Run store start commits next after
  | committed {sync : Synchronizer} {commits : List Commit} {phase next : Phase} {request : HandoffRequest}
    {moment : Moment} {disk after : Disk} {report : HandoffReport} {batch : Batch}
    (earlier : Run store start commits phase disk.tree) (ofStore : sync.store = store)
    (closes : Closes sync phase request moment disk.tree batch)
    (step : sync.outgoing phase request moment disk = (.ok report, next, after)) :
    Run store start (⟨batch, moment.clock⟩ :: commits) next after.tree

variable {commits : List Commit}

theorem Run.outgoing (earlier : Run sync.store start commits phase disk.tree)
    (step : sync.outgoing phase request moment disk = (.ok report, next, ended)) :
    ∃ batch, Run sync.store start (⟨batch, moment.clock⟩ :: commits) next ended.tree := by
  obtain ⟨inherited, session, batch, opened, closed, -, -, -⟩ := outgoing_ok step
  exact ⟨batch, earlier.committed rfl ⟨inherited, session, opened, closed⟩ step⟩

/-! Steps that commit nothing -/

theorem Quiet.unchanged (step : Quiet store phase before next after) (housed : Housed store home before) :
    Unchanged store home before after := by
  cases step with
  | restart | incoming | begin | recordTask => exact .refl housed
  | failed ofStore step whole =>
    subst ofStore
    exact unchanged_of_failed housed (outgoing_error step) whole

/-- What holds of everything that can be loaded holds of what an open session has inherited. -/
theorem inherits_of_opened {session : Session} {holds : Inherited → Prop}
    (loads : ∀ {briefing inherited}, sync.load tree moment = .ok (briefing, inherited) → holds inherited)
    (held : ∀ inherited ∈ phase.inherited?, holds inherited)
    (opened : sync.opened phase tree moment = .ok (inherited, session)) : holds inherited := by
  cases phase with
  | idle =>
    obtain ⟨⟨briefing, loaded⟩, load, opened⟩ := Fallible.bind_ok opened
    cases opened
    exact loads load
  | loaded =>
    cases opened
    exact held _ rfl
  | active =>
    cases opened
    exact held _ rfl

theorem Quiet.inherits {holds : Inherited → Prop} (step : Quiet store phase before next after)
    (loads : ∀ {sync : Synchronizer} {moment briefing inherited}, sync.store = store →
      sync.load before moment = .ok (briefing, inherited) → holds inherited)
    (held : ∀ inherited ∈ phase.inherited?, holds inherited) : ∀ inherited ∈ next.inherited?, holds inherited := by
  have one : ∀ {inherited}, holds inherited → ∀ inherited' ∈ some inherited, holds inherited' := by
    rintro inherited holds inherited' same
    cases same
    exact holds
  -- Something else is inherited only where a step has loaded.
  cases step with
  | restart =>
    intro inherited none
    cases none
  | incoming ofStore step =>
    unfold Synchronizer.incoming at step
    split at step
    · split at step
      · rename_i load
        cases step
        exact one (loads ofStore load)
      · cases step
        exact held
    · cases step
      exact held
  | begin ofStore step =>
    unfold Synchronizer.begin at step
    split at step
    · cases step
      exact held
    · cases step
      exact held
  | recordTask step =>
    unfold Synchronizer.recordTask at step
    split at step
    · cases step
      exact held
    · cases step
      exact held
  | failed ofStore step whole =>
    cases outgoing_error step with
    | blank | unread => exact held
    | full opened => exact one (inherits_of_opened (loads ofStore) held opened)
    | uncommitted opened => exact one (inherits_of_opened (loads ofStore) held opened)

/-- What a phase has inherited is the changelog that is stored. -/
def Current (store : Store) (phase : Phase) (tree : Tree) : Prop :=
  ∀ inherited ∈ phase.inherited?, ∃ stored, store.loadChangelog tree = .ok stored ∧
    inherited.changelog = stored.getD .empty

theorem current_idle (store : Store) (tree : Tree) : Current store .idle tree := by
  intro inherited held
  cases held

theorem stored_of_load {briefing : Briefing} (loads : sync.load tree moment = .ok (briefing, inherited)) :
    ∃ stored, sync.store.loadChangelog tree = .ok stored ∧ inherited.changelog = stored.getD .empty := by
  obtain ⟨changelog, summary, loadedChangelog, -, same, -⟩ := load_ok loads
  exact ⟨changelog, loadedChangelog, same⟩

theorem Current.opened {session : Session} (current : Current sync.store phase tree)
    (opened : sync.opened phase tree moment = .ok (inherited, session)) :
    Current sync.store (.active inherited session) tree := by
  intro inherited' held
  cases held
  exact inherits_of_opened stored_of_load current opened

theorem loadChangelog_congr (same : Unchanged store home before after) :
    store.loadChangelog after = store.loadChangelog before := by
  have read := same.reads .changelog
  simp only [Doc.path] at read
  rw [loadChangelog, loadChangelog]
  exact load_congr_read read

theorem Current.unchanged (current : Current store phase before)
    (same : Unchanged store home before after) : Current store phase after := by
  intro inherited held
  rw [loadChangelog_congr same]
  exact current inherited held

theorem Quiet.current (step : Quiet store phase before next after) (housed : Housed store home before)
    (current : Current store phase before) : Current store next after := by
  have loads : ∀ {sync : Synchronizer} {moment briefing inherited}, sync.store = store →
      sync.load before moment = .ok (briefing, inherited) →
        ∃ stored, store.loadChangelog before = .ok stored ∧ inherited.changelog = stored.getD .empty := by
    rintro sync moment briefing inherited rfl load
    exact stored_of_load load
  have current : Current store next before := step.inherits loads current
  exact current.unchanged (step.unchanged housed)

/-! Handoffs that are committed -/

theorem saved_of_closes (housed : Housed sync.store home disk.tree)
    (closes : Closes sync phase request moment disk.tree batch)
    (step : sync.outgoing phase request moment disk = (.ok report, next, ended)) :
    ∃ log, sync.store.loadCheckpointLog disk.tree = .ok log ∧
      Saved sync.store home (batch.files (batch.log log) moment.clock.stamped) disk.tree ended.tree := by
  obtain ⟨inherited, session, opened, closed⟩ := closes
  obtain ⟨_, _, _, log, opened', closed', read, saved, -⟩ := outgoing_saved housed step
  rw [opened] at opened'
  cases opened'
  rw [closed] at closed'
  cases closed'
  exact ⟨log, read, saved⟩

theorem idle_of_outgoing (step : sync.outgoing phase request moment disk = (.ok report, next, ended)) :
    next = .idle := by
  obtain ⟨_, _, _, -, -, -, -, idle⟩ := outgoing_ok step
  exact idle

theorem outgoing_of_outcome (outcome : (sync.outgoing phase request moment disk).1 = .ok report) :
    sync.outgoing phase request moment disk = (.ok report, .idle, (sync.outgoing phase request moment disk).2.2) := by
  have step := eq_of_outcome outcome
  rw [idle_of_outgoing step] at step
  exact step

theorem Run.housed (run : Run store start commits phase tree) (housed : Housed store home start) :
    Housed store home tree := by
  induction run with
  | start => exact housed
  | quiet earlier step ih => exact (step.unchanged ih).housed
  | committed earlier ofStore closes step ih =>
    subst ofStore
    obtain ⟨log, -, saved⟩ := saved_of_closes ih closes step
    exact saved.housed

theorem Run.current (run : Run store start commits phase tree) (housed : Housed store home start) :
    Current store phase tree := by
  induction run with
  | start => exact current_idle store start
  | quiet earlier step ih => exact step.current (earlier.housed housed) ih
  | committed earlier ofStore closes step ih =>
    rw [idle_of_outgoing step]
    exact current_idle store _

end Waymark.Synchronizer
