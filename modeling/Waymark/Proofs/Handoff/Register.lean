import Waymark.Handoff.Register
import Waymark.Proofs.Handoff.Retry

/-! The record of a synchronizer under any calls. The records that are reached are those of the phases, and
on them every call does what it does to the phase; so a session is open in the active stage only, and
a call that is refused changes nothing.
-/

set_option autoImplicit false

namespace Waymark

def Synchronizer.perform (sync : Synchronizer) (operation : Register.Operation) (moment : Moment)
    (phase : Phase) (disk : Disk) : Except HandoffError Register.Answer × Phase × Disk :=
  match operation with
  | .incoming =>
    let (result, phase) := sync.incoming phase disk.tree moment
    (result.map .briefing, phase, disk)
  | .begin =>
    let (result, phase) := sync.begin phase moment
    (result.map .begun, phase, disk)
  | .recordTask text =>
    let (result, phase) := recordTask phase text
    (result.map fun _ => .recorded, phase, disk)
  | .outgoing request =>
    let (result, phase, disk) := sync.outgoing phase request moment disk
    (result.map .report, phase, disk)

namespace Register

open Store Transaction

def ofPhase : Phase → Register
  | .idle => .new
  | .loaded inherited =>
    ⟨.incomingLoaded, inherited.previous, inherited.changelog, inherited.projectVersion, none⟩
  | .active inherited session =>
    ⟨.active, inherited.previous, inherited.changelog, inherited.projectVersion, some session⟩

def Error.ofHandoff : HandoffError → Error
  | .invalidTransition transition phase => .invalidTransition transition.toText (ofPhase phase).stage
  | .emptySummary => .emptySummary
  | .storage error => .storage error
  | .uncommitted error => .uncommitted error
  | .overflow refused => .overflow refused

variable {sync : Synchronizer} {operation : Operation} {moment : Moment} {phase next : Phase}
  {register after : Register} {disk ended : Disk} {tree : Tree} {home : Home}
  {result : Except Error Answer}

theorem toText_stage (phase : Phase) : (ofPhase phase).stage.toText = phase.toText := by
  cases phase <;> rfl

theorem message_ofHandoff (error : HandoffError) : (Error.ofHandoff error).message = error.message := by
  cases error with
  | invalidTransition transition phase =>
    rw [Error.ofHandoff, Error.message, HandoffError.message, toText_stage]
  | emptySummary | storage | uncommitted | overflow => rfl

/-! In lockstep with the phases -/

theorem incoming_ofPhase (phase : Phase) : incoming sync tree moment (ofPhase phase) =
    ((sync.incoming phase tree moment).1.mapError .ofHandoff,
      ofPhase (sync.incoming phase tree moment).2) := by
  cases phase with
  | loaded | active => rfl
  | idle =>
    cases loads : sync.load tree moment with
    | error error =>
      simp only [incoming, Synchronizer.incoming, loads]
      rfl
    | ok read =>
      simp only [incoming, Synchronizer.incoming, loads]
      rfl

theorem begin_ofPhase (phase : Phase) : begin sync moment (ofPhase phase) =
    ((sync.begin phase moment).1.mapError .ofHandoff, ofPhase (sync.begin phase moment).2) := by
  cases phase with
  | idle | loaded | active => rfl

theorem recordTask_ofPhase (phase : Phase) (text : String) : recordTask text (ofPhase phase) =
    ((Synchronizer.recordTask phase text).1.mapError .ofHandoff,
      ofPhase (Synchronizer.recordTask phase text).2) := by
  cases phase with
  | idle | loaded => rfl
  | active inherited session =>
    cases task : Synchronizer.task? text with
    | none =>
      simp only [recordTask, Synchronizer.recordTask, task, Option.toList, List.append_nil]
      rfl
    | some task' =>
      simp only [recordTask, Synchronizer.recordTask, task]
      rfl

theorem opened_ofPhase (phase : Phase) : opened sync tree moment (ofPhase phase) =
    match sync.opened phase tree moment with
    | .error error => (.error (.storage error), ofPhase phase)
    | .ok (inherited, session) => (.ok session, ofPhase (.active inherited session)) := by
  cases phase with
  | loaded | active => rfl
  | idle =>
    cases loads : sync.load tree moment with
    | error error =>
      simp only [opened, incoming, Synchronizer.opened, loads]
      rfl
    | ok read =>
      simp only [opened, incoming, Synchronizer.opened, loads]
      rfl

theorem outgoing_ofPhase (phase : Phase) (request : HandoffRequest) : outgoing sync request moment (ofPhase phase) disk =
    ((sync.outgoing phase request moment disk).1.mapError .ofHandoff,
      ofPhase (sync.outgoing phase request moment disk).2.1, (sync.outgoing phase request moment disk).2.2) := by
  unfold outgoing Synchronizer.outgoing
  simp only [opened_ofPhase]
  split
  · rfl
  cases sync.opened phase disk.tree moment with
  | error error => rfl
  | ok read =>
    obtain ⟨inherited, session⟩ := read
    have same : (ofPhase (.active inherited session)).inherited = inherited := rfl
    simp only [same]
    cases sync.batch inherited (Synchronizer.close inherited session request
        (String.ofList (Text.trim request.summary.toList)) moment.now) request.outcome
        (String.ofList (Text.trim request.summary.toList)) moment.now with
    | error full => rfl
    | ok batch =>
      dsimp only
      obtain ⟨committed, after⟩ := sync.store.commitHandoff batch moment.clock.stamped disk
      cases committed with
      | error | ok => rfl

theorem perform_ofPhase (operation : Operation) (phase : Phase) :
    perform sync operation moment (ofPhase phase) disk =
      ((sync.perform operation moment phase disk).1.mapError .ofHandoff,
        ofPhase (sync.perform operation moment phase disk).2.1, (sync.perform operation moment phase disk).2.2) := by
  have swap {α : Type} (answer : α → Answer) (result : Except HandoffError α) :
      (result.mapError Error.ofHandoff).map answer = (result.map answer).mapError Error.ofHandoff := by
    cases result <;> rfl
  cases operation with
  | incoming => simp only [perform, aside, incoming_ofPhase, swap, Synchronizer.perform]
  | begin => simp only [perform, aside, begin_ofPhase, swap, Synchronizer.perform]
  | recordTask text => simp only [perform, aside, recordTask_ofPhase, swap, Synchronizer.perform]
  | outgoing request => simp only [perform, outgoing_ofPhase, swap, Synchronizer.perform]

/-! Any sequence of calls -/

/-- A synchronizer is seen in three of its stages, has a session open in one of them only, and holds
nothing while idle. -/
structure Regular (register : Register) : Prop where
  settled : register.stage ≠ .outgoingCommitted
  session : register.session.isSome ↔ register.stage = .active
  bare : register.stage = .idle →
    register.previous = none ∧ register.projectVersion = none ∧ register.changelog = .empty

theorem regular_ofPhase (phase : Phase) : Regular (ofPhase phase) := by
  cases phase with
  | idle => exact ⟨by decide, by decide, fun _ => ⟨rfl, rfl, rfl⟩⟩
  | loaded | active => exact ⟨by simp [ofPhase], by simp [ofPhase], by simp [ofPhase]⟩

theorem Regular.exists_ofPhase (h : Regular register) : ∃ phase, register = ofPhase phase := by
  obtain ⟨stage, previous, changelog, projectVersion, session⟩ := register
  obtain ⟨settled, open_, bare⟩ := h
  cases stage with
  | idle =>
    obtain ⟨rfl, rfl, rfl⟩ := bare rfl
    obtain rfl : session = none := by simpa using open_
    exact ⟨.idle, rfl⟩
  | incomingLoaded =>
    obtain rfl : session = none := by simpa using open_
    exact ⟨.loaded ⟨previous, changelog, projectVersion⟩, rfl⟩
  | active =>
    obtain ⟨session, rfl⟩ := Option.isSome_iff_exists.1 (open_.2 rfl)
    exact ⟨.active ⟨previous, changelog, projectVersion⟩ session, rfl⟩
  | outgoingCommitted => exact absurd rfl settled

theorem Regular.call (h : Regular register) (sync : Synchronizer) (operation : Operation)
    (moment : Moment) (disk : Disk) : Regular (perform sync operation moment register disk).2.1 := by
  obtain ⟨phase, rfl⟩ := h.exists_ofPhase
  rw [perform_ofPhase]
  exact regular_ofPhase _

/-- What a synchronizer may hold after calls, each of them on any disk. -/
inductive Reachable (sync : Synchronizer) : Register → Prop where
  | new : Reachable sync .new
  | call {register : Register} (earlier : Reachable sync register) (operation : Operation)
    (moment : Moment) (disk : Disk) : Reachable sync (perform sync operation moment register disk).2.1

theorem Reachable.regular (h : Reachable sync register) : Regular register := by
  induction h with
  | new => exact regular_ofPhase .idle
  | call earlier operation moment disk ih => exact ih.call sync operation moment disk

/-! One call -/

def Operation.stage? : Operation → Option Stage
  | .incoming => some .idle
  | .begin => some .incomingLoaded
  | .recordTask _ => some .active
  | .outgoing _ => none

/-- Failures that are told before anything is done. -/
inductive Refusal : Error → Prop where
  | invalidTransition (operation : String) (stage : Stage) : Refusal (.invalidTransition operation stage)
  | emptySummary : Refusal .emptySummary

/-- What a call leaves, on the disk too. -/
structure Lawful (sync : Synchronizer) (operation : Operation) (before : Register) (disk : Disk)
    (result : Except Error Answer) (after : Register) (ended : Disk) : Prop where
  regular : Regular after
  allowed : ∀ answer, result = .ok answer → ∀ stage ∈ operation.stage?, before.stage = stage
  refused : (∃ name stage, result = .error (.invalidTransition name stage)) ↔
    ∃ stage ∈ operation.stage?, before.stage ≠ stage
  rejected : ∀ error, result = .error error → Refusal error → after = before ∧ ended = disk
  /-- The disk is touched by the commit of a handoff only. -/
  quiet : ended = disk ∨ ∃ request, operation = .outgoing request ∧
    ∀ error, result = .error error → ∃ cause, error = .uncommitted cause
  /-- A commit that fails before it writes makes directories at most. -/
  unstaged : ∀ cause, result = .error (.uncommitted cause) → ¬Staging cause → disk.tree.Grows ended.tree
  documents : ∀ home, Housed sync.store home disk.tree →
    Unchanged sync.store home disk.tree ended.tree ∨
    (∃ request answer, operation = .outgoing request ∧ result = .ok answer) ∨
    ∃ path cause, result = .error (.uncommitted (.transaction path cause false))

theorem lawful_checked {stage : Stage} (only : operation.stage? = some stage) (regular : Regular after)
    (wrong : register.stage ≠ stage →
      (∃ name, result = .error (.invalidTransition name register.stage)) ∧ after = register)
    (right : register.stage = stage → ∀ error, result = .error error → ¬Refusal error) :
    Lawful sync operation register disk result after disk where
  regular := regular
  allowed answer succeeded required is := by
    obtain rfl : stage = required := by simpa [only] using is
    by_contra other
    obtain ⟨⟨name, refused⟩, -⟩ := wrong other
    rw [refused] at succeeded
    cases succeeded
  refused := by
    constructor
    · rintro ⟨name, at_, failed⟩
      exact ⟨stage, only, fun here => right here _ failed (.invalidTransition name at_)⟩
    · rintro ⟨required, is, other⟩
      obtain rfl : stage = required := by simpa [only] using is
      obtain ⟨⟨name, refused⟩, -⟩ := wrong other
      exact ⟨name, _, refused⟩
  rejected error failed refusal := by
    by_cases here : register.stage = stage
    · exact absurd refusal (right here error failed)
    · exact ⟨(wrong here).2, rfl⟩
  quiet := .inl rfl
  unstaged _ _ _ := .refl disk.tree
  documents _ housed := .inl (.refl housed)

theorem lawful_incoming (phase : Phase) : Lawful sync .incoming (ofPhase phase) disk
    (perform sync .incoming moment (ofPhase phase) disk).1
    (perform sync .incoming moment (ofPhase phase) disk).2.1
    (perform sync .incoming moment (ofPhase phase) disk).2.2 := by
  refine lawful_checked rfl ((regular_ofPhase phase).call sync .incoming moment disk) ?_ ?_
  · intro other
    cases phase with
    | idle => exact absurd rfl other
    | loaded | active => exact ⟨⟨_, rfl⟩, rfl⟩
  · intro here error failed
    cases phase with
    | loaded | active => cases here
    | idle =>
      rw [perform_ofPhase] at failed
      simp only [Synchronizer.perform, Synchronizer.incoming] at failed
      split at failed
      · cases failed
      · cases failed
        rintro ⟨⟩

theorem lawful_begin (phase : Phase) : Lawful sync .begin (ofPhase phase) disk
    (perform sync .begin moment (ofPhase phase) disk).1
    (perform sync .begin moment (ofPhase phase) disk).2.1
    (perform sync .begin moment (ofPhase phase) disk).2.2 := by
  refine lawful_checked rfl ((regular_ofPhase phase).call sync .begin moment disk) ?_ ?_
  · intro other
    cases phase with
    | loaded => exact absurd rfl other
    | idle | active => exact ⟨⟨_, rfl⟩, rfl⟩
  · intro here error failed
    cases phase with
    | idle | active => cases here
    | loaded => cases failed

theorem lawful_recordTask (phase : Phase) (text : String) :
    Lawful sync (.recordTask text) (ofPhase phase) disk
      (perform sync (.recordTask text) moment (ofPhase phase) disk).1
      (perform sync (.recordTask text) moment (ofPhase phase) disk).2.1
      (perform sync (.recordTask text) moment (ofPhase phase) disk).2.2 := by
  refine lawful_checked rfl ((regular_ofPhase phase).call sync (.recordTask text) moment disk) ?_ ?_
  · intro other
    cases phase with
    | active => exact absurd rfl other
    | idle | loaded => exact ⟨⟨_, rfl⟩, rfl⟩
  · intro here error failed
    cases phase with
    | idle | loaded => cases here
    | active =>
      rw [perform_ofPhase] at failed
      cases failed

theorem unrestricted (request : HandoffRequest) :
    ¬∃ stage ∈ (Operation.outgoing request).stage?, register.stage ≠ stage := by
  rintro ⟨stage, ⟨⟩, -⟩

theorem lawful_committed (request : HandoffRequest) (answer : Answer) (next : Phase) (ended : Disk) :
    Lawful sync (.outgoing request) register disk (.ok answer) (ofPhase next) ended where
  regular := regular_ofPhase next
  allowed := by rintro _ _ stage ⟨⟩
  refused := ⟨by rintro ⟨_, _, ⟨⟩⟩, fun other => absurd other (unrestricted request)⟩
  rejected := by rintro _ ⟨⟩
  quiet := .inr ⟨request, rfl, by rintro _ ⟨⟩⟩
  unstaged := by rintro _ ⟨⟩
  documents _ _ := .inr (.inl ⟨request, answer, rfl, rfl⟩)

theorem lawful_failed {error : HandoffError} (request : HandoffRequest)
    (failed : Synchronizer.Failed sync phase moment disk error next ended) :
    Lawful sync (.outgoing request) (ofPhase phase) disk (.error (.ofHandoff error)) (ofPhase next) ended where
  regular := regular_ofPhase next
  allowed := by rintro _ ⟨⟩
  refused := by
    refine ⟨?_, fun other => absurd other (unrestricted request)⟩
    rintro ⟨_, _, is⟩
    cases failed <;> cases is
  rejected := by
    rintro _ ⟨⟩ refusal
    cases failed with
    | blank => exact ⟨rfl, rfl⟩
    | unread | full | uncommitted => cases refusal
  quiet := by
    cases failed with
    | blank | unread | full => exact .inl rfl
    | @uncommitted _ _ _ cause =>
      refine .inr ⟨request, rfl, ?_⟩
      rintro _ ⟨⟩
      exact ⟨cause, rfl⟩
  unstaged := by
    intro cause is early
    cases failed with
    | blank | unread | full => cases is
    | @uncommitted _ _ batch _ _ _ failed =>
      cases is
      have ends := commitHandoff_unstaged sync.store batch moment.clock.stamped disk
      rw [failed] at ends
      exact ends.resolve_left early
  -- Only a commit that could not be undone leaves other documents, and its error says so.
  documents home housed := by
    by_cases torn : Synchronizer.Torn error
    · unfold Synchronizer.Torn at torn
      split at torn
      · subst torn
        exact .inr (.inr ⟨_, _, rfl⟩)
      · exact torn.elim
    · exact .inl (Synchronizer.unchanged_of_failed housed failed torn)

theorem lawful_outgoing (phase : Phase) (request : HandoffRequest) :
    Lawful sync (.outgoing request) (ofPhase phase) disk
      (perform sync (.outgoing request) moment (ofPhase phase) disk).1
      (perform sync (.outgoing request) moment (ofPhase phase) disk).2.1
      (perform sync (.outgoing request) moment (ofPhase phase) disk).2.2 := by
  rw [perform_ofPhase]
  simp only [Synchronizer.perform]
  cases call : sync.outgoing phase request moment disk with
  | mk outcome left =>
  cases outcome with
  | ok report => exact lawful_committed request _ left.1 left.2
  | error error => exact lawful_failed request (Synchronizer.outgoing_error call)

theorem Regular.lawful (h : Regular register) (sync : Synchronizer) (operation : Operation)
    (moment : Moment) (disk : Disk) : Lawful sync operation register disk
      (perform sync operation moment register disk).1 (perform sync operation moment register disk).2.1
      (perform sync operation moment register disk).2.2 := by
  obtain ⟨phase, rfl⟩ := h.exists_ofPhase
  cases operation with
  | incoming => exact lawful_incoming phase
  | begin => exact lawful_begin phase
  | recordTask text => exact lawful_recordTask phase text
  | outgoing request => exact lawful_outgoing phase request

/-- Whatever was called before and whatever fails, a synchronizer is regular, the next call is lawful, and
the call does what it does to the phase that the record stands for, and tells of a failure in the same words. -/
theorem lawful_of_reachable (reachable : Reachable sync register) (operation : Operation) (moment : Moment)
    (disk : Disk) : Regular register ∧
      Lawful sync operation register disk (perform sync operation moment register disk).1
        (perform sync operation moment register disk).2.1 (perform sync operation moment register disk).2.2 ∧
      ∃ phase outcome next ended, register = ofPhase phase ∧
        sync.perform operation moment phase disk = (outcome, next, ended) ∧
        perform sync operation moment register disk = (outcome.mapError .ofHandoff, ofPhase next, ended) ∧
        ∀ error, outcome = .error error → (Error.ofHandoff error).message = error.message := by
  have regular := reachable.regular
  refine ⟨regular, regular.lawful sync operation moment disk, ?_⟩
  obtain ⟨phase, rfl⟩ := regular.exists_ofPhase
  exact ⟨phase, _, _, _, rfl, rfl, perform_ofPhase operation phase, fun error _ => message_ofHandoff error⟩

open Synchronizer

def begun : Register :=
  (perform rooted .begin midnight (perform rooted .incoming midnight .new (.ofTree Tree.empty 0)).2.1
    (.ofTree Tree.empty 0)).2.1

/-- Reading again is refused while a session is open. -/
theorem lawful_of_reachable_begun : Reachable rooted begun ∧ begun.stage = .active ∧
    (perform rooted .incoming oneOClock begun (.ofTree Tree.empty 0)).1 =
      .error (.invalidTransition "load incoming state" .active) ∧
    Lawful rooted .incoming begun (.ofTree Tree.empty 0)
      (perform rooted .incoming oneOClock begun (.ofTree Tree.empty 0)).1
      (perform rooted .incoming oneOClock begun (.ofTree Tree.empty 0)).2.1
      (perform rooted .incoming oneOClock begun (.ofTree Tree.empty 0)).2.2 := by
  have reachable : Reachable rooted begun := (Reachable.new.call _ _ _).call _ _ _
  have ran : begun.stage = .active ∧ (perform rooted .incoming oneOClock begun (.ofTree Tree.empty 0)).1 =
      .error (.invalidTransition "load incoming state" .active) := by
    decide +kernel
  exact ⟨reachable, ran.1, ran.2, (lawful_of_reachable reachable .incoming oneOClock _).2.1⟩

/-- A disk with an earlier handoff, on which the third renaming and the next one fail. -/
def unrecoverable : Disk :=
  (Disk.ofTree ⟨[(["codebase_summary"], ⟨.directory, 0⟩),
    (["codebase_summary", "agent_handoff.json"], ⟨.file "old".toUTF8, 0⟩)], []⟩ 1).withScript
    (.ofNumbers [] [3, 4] .permissionDenied)

/-- The first byte of a file, which tells what is there more cheaply than the whole of it. -/
def firstByte? (tree : Tree) (path : Path) : Option UInt8 :=
  (tree.readOptional path).toOption.join.bind (·.data.toList.head?)

theorem readOptional_ne {a b : Tree} {path : Path} (differs : firstByte? a path ≠ firstByte? b path) :
    a.readOptional path ≠ b.readOptional path := by
  intro same
  rw [firstByte?, firstByte?, same] at differs
  exact differs rfl

/-- A handoff that fails changes documents where it cannot be rolled back, and where a link stands in the
place of a temporary file. -/
theorem failed_handoff_changes :
    ((perform rooted (.outgoing unfinished) midnight .new unrecoverable).1 =
        .error (.uncommitted (.transaction ⟨"/changelog_summary.json"⟩
          ⟨.permissionDenied, some Disk.renameFailure⟩ false)) ∧
      (perform rooted (.outgoing unfinished) midnight .new unrecoverable).2.2.tree.readOptional
        (Doc.handoff.path rooted.store) ≠ unrecoverable.tree.readOptional (Doc.handoff.path rooted.store)) ∧
    (perform rooted (.outgoing unfinished) midnight .new misled).1 =
        .error (.uncommitted (.transaction ⟨"/codebase_summary/agent_handoff.json"⟩
          ⟨.permissionDenied, some Disk.writeFailure⟩ true)) ∧
      (perform rooted (.outgoing unfinished) midnight .new misled).2.2.tree.readOptional
        (Doc.summary.path rooted.store) ≠ misled.tree.readOptional (Doc.summary.path rooted.store) := by
  refine ⟨?_, ?_⟩
  · have ran : (perform rooted (.outgoing unfinished) midnight .new unrecoverable).1 =
        .error (.uncommitted (.transaction ⟨"/changelog_summary.json"⟩
          ⟨.permissionDenied, some Disk.renameFailure⟩ false)) ∧
        firstByte? (perform rooted (.outgoing unfinished) midnight .new unrecoverable).2.2.tree
          (Doc.handoff.path rooted.store) ≠ firstByte? unrecoverable.tree (Doc.handoff.path rooted.store) := by
      decide +kernel
    exact ⟨ran.1, readOptional_ne ran.2⟩
  · decide +kernel

end Register

end Waymark
