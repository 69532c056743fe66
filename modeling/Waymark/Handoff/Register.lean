import Waymark.Handoff.Synchronizer

/-! The synchronizer as a record whose fields change one at a time. Nothing about the record rules out a
session beside the idle stage; that there is never one is up to the checks of the operations.
-/

set_option autoImplicit false

namespace Waymark

inductive Stage where
  | idle
  | incomingLoaded
  | active
  /-- Between the commit of a handoff and the reset that follows it. -/
  | outgoingCommitted
  deriving Repr, DecidableEq

def Stage.toText : Stage → String
  | .idle => "idle"
  | .incomingLoaded => "incoming loaded"
  | .active => "active"
  | .outgoingCommitted => "outgoing committed"

structure Register where
  stage : Stage
  previous : Option Session
  changelog : Changelog
  projectVersion : Option Version
  session : Option Session
  deriving DecidableEq

namespace Register

inductive Error where
  | invalidTransition (operation : String) (stage : Stage)
  | emptySummary
  /-- A stored document could not be read. -/
  | storage (error : StoreError)
  /-- The documents were not committed. -/
  | uncommitted (error : StoreError)
  | overflow (refused : Overflow)
  deriving DecidableEq

def Error.message : Error → Option String
  | .invalidTransition operation stage => some ("cannot " ++ operation ++ " while " ++ stage.toText)
  | .emptySummary => some "session summary must not be empty"
  | .storage error => error.message.map ("storage error: " ++ ·)
  | .uncommitted error =>
    error.message.map ("partial update: handoff stores were not committed: " ++ ·)
  | .overflow refused => some refused.message

def new : Register := ⟨.idle, none, .empty, none, none⟩

def inherited (register : Register) : Inherited :=
  ⟨register.previous, register.changelog, register.projectVersion⟩

def reset (_ : Register) : Register := ⟨.idle, none, .empty, none, none⟩

abbrev Holding (α : Type) := ExceptT Error (StateM Register) α

/-- Refuses an operation in every stage but one. -/
def expect (stage : Stage) (operation : String) : Holding Unit := do
  let register ← get
  if register.stage = stage then return () else throw (.invalidTransition operation register.stage)

def incoming (sync : Synchronizer) (tree : Tree) (moment : Moment) : Holding Briefing := do
  expect .idle "load incoming state"
  let (briefing, read) ← ofExcept ((sync.load tree moment).mapError .storage)
  modify fun register => { register with
    previous := read.previous
    changelog := read.changelog
    projectVersion := read.projectVersion
    stage := .incomingLoaded }
  return briefing

def begin (sync : Synchronizer) (moment : Moment) : Holding Session := do
  expect .incomingLoaded "begin a session"
  let session := sync.newSession (← get).inherited moment
  modify fun register => { register with stage := .active, session := some session }
  return session

def recordTask (text : String) : Holding Unit := do
  expect .active "record a task"
  match Synchronizer.task? text with
  | none => return ()
  | some task =>
    modify fun register => { register with
      session := register.session.map fun session =>
        { session with completedTasks := session.completedTasks ++ [task] } }

/-- Takes the steps to an open session that have not been taken yet. -/
def opened (sync : Synchronizer) (tree : Tree) (moment : Moment) : Holding Session := do
  if (← get).stage = .idle then
    let _ ← incoming sync tree moment
  if (← get).stage = .incomingLoaded then
    let _ ← begin sync moment
  expect .active "hand off"
  match (← get).session with
  | some session => return session
  | none => throw (.invalidTransition "hand off" (← get).stage)

def outgoing (sync : Synchronizer) (request : HandoffRequest) (moment : Moment) (register : Register)
    (disk : Disk) : Except Error HandoffReport × Register × Disk :=
  let summary := Text.trim request.summary.toList
  if summary.isEmpty then (.error .emptySummary, register, disk)
  else
    match opened sync disk.tree moment register with
    | (.error error, register) => (.error error, register, disk)
    | (.ok session, register) =>
      let summary := String.ofList summary
      let closed := Synchronizer.close register.inherited session request summary moment.now
      match sync.batch register.inherited closed request.outcome summary moment.now with
      | .error overflow => (.error (.overflow overflow), register, disk)
      | .ok batch =>
        match sync.store.commitHandoff batch moment.clock.stamped disk with
        | (.error error, disk) => (.error (.uncommitted error), register, disk)
        | (.ok (), disk) =>
          let committed := { register with stage := .outgoingCommitted }
          (.ok (Synchronizer.report batch), committed.reset, disk)

inductive Operation where
  | incoming
  | begin
  | recordTask (text : String)
  | outgoing (request : HandoffRequest)
  deriving DecidableEq

inductive Answer where
  | briefing (briefing : Briefing)
  | begun (session : Session)
  | recorded
  | report (report : HandoffReport)
  deriving DecidableEq

/-- A call that leaves the disk alone. -/
def aside {α : Type} (call : Holding α) (answer : α → Answer) (register : Register) (disk : Disk) :
    Except Error Answer × Register × Disk :=
  let (result, register) := call register
  (result.map answer, register, disk)

def perform (sync : Synchronizer) (operation : Operation) (moment : Moment) (register : Register)
    (disk : Disk) : Except Error Answer × Register × Disk :=
  match operation with
  | .incoming => aside (incoming sync disk.tree moment) .briefing register disk
  | .begin => aside (begin sync moment) .begun register disk
  | .recordTask text => aside (recordTask text) (fun _ => .recorded) register disk
  | .outgoing request =>
    let (result, register, disk) := outgoing sync request moment register disk
    (result.map .report, register, disk)

end Register

end Waymark
