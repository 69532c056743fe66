import Waymark.Handoff.Briefing
import Waymark.Handoff.Priority
import Waymark.Store.Basic

/-! Handing a session over. The incoming side reads the stored documents and writes nothing; the
outgoing side closes the session and commits all documents of the handoff at once. When the commit
fails the session stays open as it was, so that the handoff can be tried again.
-/

set_option autoImplicit false

namespace Waymark

structure Synchronizer where
  store : Store
  mode : Mode
  retention : HandoffConfig

structure Clock where
  now : Time
  /-- For the name of an archive, for which it is read once more. -/
  stamped : Time
  deriving DecidableEq

/-- A clock that has not moved on between the readings. -/
instance : Coe Time Clock := ⟨fun time => ⟨time, time⟩⟩

/-- When an operation happens, and the ids that it may give away. -/
structure Moment where
  clock : Clock
  /-- For a session that is begun. -/
  begun : SessionId
  /-- For a stored session of the older form, which has none. -/
  adopted : SessionId
  deriving DecidableEq

def Moment.now (moment : Moment) : Time := moment.clock.now

structure HandoffRequest where
  summary : String
  outcome : Outcome
  /-- Tasks besides those that were recorded. -/
  tasks : List String
  deriving DecidableEq

structure HandoffReport where
  sessionId : SessionId
  changelogVersion : Version
  priorityItems : List String
  /-- How many changelog entries were archived. -/
  archived : Count
  deriving DecidableEq

def Outcome.category : Outcome → Category
  | .completed => .feature
  | .unresolved => .bug

namespace Synchronizer

/-- A task as it is recorded; a blank one is not. -/
def task? (text : String) : Option String :=
  let trimmed := Text.trim text.toList
  if trimmed.isEmpty then none else some (String.ofList trimmed)

def load (sync : Synchronizer) (tree : Tree) (moment : Moment) :
    Except StoreError (Briefing × Inherited) := do
  let previous ← sync.store.loadSession tree moment.adopted
  let changelog ← sync.store.loadChangelog tree
  let projectVersion := (← sync.store.loadSummary tree).map (·.version)
  let missing ← sync.store.loadMissingDocs tree
  let inherited := ⟨previous, changelog.getD .empty, projectVersion⟩
  return (.ofInherited inherited (.ofStored projectVersion changelog missing), inherited)

/-- Reads what the session before left, out of the idle phase only. -/
def incoming (sync : Synchronizer) (phase : Phase) (tree : Tree) (moment : Moment) :
    Except HandoffError Briefing × Phase :=
  match phase with
  | .idle =>
    match sync.load tree moment with
    | .ok (briefing, inherited) => (.ok briefing, .loaded inherited)
    | .error error => (.error (.storage error), .idle)
  | _ => (.error (.invalidTransition .load phase), phase)

/-- A new session, which starts where the one before was completed. -/
def newSession (sync : Synchronizer) (inherited : Inherited) (moment : Moment) : Session :=
  .start moment.begun sync.mode ((inherited.previous.bind (·.completedAt)).getD moment.now)

def begin (sync : Synchronizer) (phase : Phase) (moment : Moment) :
    Except HandoffError Session × Phase :=
  match phase with
  | .loaded inherited =>
    let session := sync.newSession inherited moment
    (.ok session, .active inherited session)
  | _ => (.error (.invalidTransition .begin phase), phase)

def recordTask (phase : Phase) (text : String) : Except HandoffError Unit × Phase :=
  match phase with
  | .active inherited session =>
    let completedTasks := session.completedTasks ++ (task? text).toList
    (.ok (), .active inherited { session with completedTasks })
  | _ => (.error (.invalidTransition .recordTask phase), phase)

/-- The items with each further task that is not among them yet. -/
def withTasks (items tasks : List String) : List String :=
  tasks.foldl (fun items task => if items.contains task then items else items ++ [task]) items

/-- What the next session should look at: phrases of the summary, and the tasks where the outcome is
unresolved. -/
def priorityItems (summary : String) (outcome : Outcome) (tasks : List String) : List String :=
  match outcome with
  | .completed => Priority.items summary
  | .unresolved => withTasks (Priority.items summary) tasks

/-- The session as the request closes it; `summary` is trimmed. -/
def close (inherited : Inherited) (session : Session) (request : HandoffRequest)
    (summary : String) (now : Time) : Session :=
  let completedTasks := session.completedTasks ++ request.tasks.filterMap task?
  { session with
    completedTasks
    completedAt := some now
    outcome := request.outcome
    lastSummary := some summary
    priorityItems := priorityItems summary request.outcome completedTasks
    projectVersion := inherited.projectVersion }

def batch (sync : Synchronizer) (inherited : Inherited) (session : Session) (outcome : Outcome)
    (summary : String) (now : Time) : Except Overflow Store.Batch := do
  let category := outcome.category
  let (changelog, recorded) :=
    inherited.changelog.record category summary inherited.projectVersion now
  let _ ← recorded
  let (changelog, archived) := changelog.takeOverflow sync.retention.changelogRetention.toNat
  return {
    session
    handoff := .ofSession session changelog.version now
    changelog
    archived := ← archived
    checkpoint := ⟨now, changelog.version, inherited.projectVersion, category, summary⟩
    checkpointRetention := sync.retention.checkpointRetention.toNat }

def report (batch : Store.Batch) : HandoffReport where
  sessionId := batch.session.id
  changelogVersion := batch.changelog.version
  priorityItems := batch.session.priorityItems
  archived := Count.ofLength batch.archived

/-- The open session, which is begun first where none is open. -/
def opened (sync : Synchronizer) (phase : Phase) (tree : Tree) (moment : Moment) :
    Except StoreError (Inherited × Session) :=
  match phase with
  | .active inherited session => .ok (inherited, session)
  | .loaded inherited => .ok (inherited, sync.newSession inherited moment)
  | .idle => do
    let (_, inherited) ← sync.load tree moment
    return (inherited, sync.newSession inherited moment)

def outgoing (sync : Synchronizer) (phase : Phase) (request : HandoffRequest) (moment : Moment)
    (disk : Disk) : Except HandoffError HandoffReport × Phase × Disk :=
  let summary := Text.trim request.summary.toList
  if summary.isEmpty then (.error .emptySummary, phase, disk)
  else
    match sync.opened phase disk.tree moment with
    | .error error => (.error (.storage error), phase, disk)
    | .ok (inherited, session) =>
      let summary := String.ofList summary
      let closed := close inherited session request summary moment.now
      match sync.batch inherited closed request.outcome summary moment.now with
      | .error overflow => (.error (.overflow overflow), .active inherited session, disk)
      | .ok batch =>
        match sync.store.commitHandoff batch moment.clock.stamped disk with
        | (.error error, disk) => (.error (.uncommitted error), .active inherited session, disk)
        | (.ok (), disk) => (.ok (report batch), .idle, disk)

end Synchronizer

end Waymark
