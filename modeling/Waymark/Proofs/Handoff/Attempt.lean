import Waymark.Handoff.Synchronizer
import Waymark.Proofs.Store.Handoff

/-! One attempt at a handoff. An attempt that fails and is rolled back leaves every document, and the
open session, as they were when the session was opened.
-/

set_option autoImplicit false

namespace Waymark.Synchronizer

open OnDisk Transaction Store

def trimmed (request : HandoffRequest) : String := String.ofList (Text.trim request.summary.toList)

def closing (sync : Synchronizer) (inherited : Inherited) (session : Session) (request : HandoffRequest)
    (now : Time) : Except Overflow Store.Batch :=
  sync.batch inherited (close inherited session request (trimmed request) now) request.outcome
    (trimmed request) now

variable {sync : Synchronizer} {phase phase' : Phase} {request : HandoffRequest} {moment : Moment}
  {disk after : Disk} {home : Home} {tree : Tree}

theorem outgoing_ok {report : HandoffReport}
    (h : sync.outgoing phase request moment disk = (.ok report, phase', after)) :
    ∃ inherited session batch, sync.opened phase disk.tree moment = .ok (inherited, session) ∧
      sync.closing inherited session request moment.now = .ok batch ∧
      sync.store.commitHandoff batch moment.clock.stamped disk = (.ok (), after) ∧
      report = Synchronizer.report batch ∧ phase' = .idle := by
  unfold outgoing at h
  simp only at h
  split at h
  · cases h
  split at h
  · cases h
  rename_i inherited session opened
  split at h
  · cases h
  rename_i batch closed
  split at h
  · cases h
  rename_i committed
  cases h
  exact ⟨inherited, session, batch, opened, closed, committed, rfl, rfl⟩

/-- How an attempt fails: before anything was read, while reading, or with the session open. -/
inductive Failed (sync : Synchronizer) (phase : Phase) (moment : Moment) (disk : Disk) :
    HandoffError → Phase → Disk → Prop where
  | blank : Failed sync phase moment disk .emptySummary phase disk
  | unread {error : StoreError} (unread : sync.opened phase disk.tree moment = .error error) :
    Failed sync phase moment disk (.storage error) phase disk
  | full {inherited : Inherited} {session : Session} {refused : Overflow}
    (opened : sync.opened phase disk.tree moment = .ok (inherited, session)) :
    Failed sync phase moment disk (.overflow refused) (.active inherited session) disk
  | uncommitted {inherited : Inherited} {session : Session} {batch : Store.Batch} {error : StoreError}
    {after : Disk} (opened : sync.opened phase disk.tree moment = .ok (inherited, session))
    (failed : sync.store.commitHandoff batch moment.clock.stamped disk = (.error error, after)) :
    Failed sync phase moment disk (.uncommitted error) (.active inherited session) after

theorem outgoing_error {error : HandoffError}
    (h : sync.outgoing phase request moment disk = (.error error, phase', after)) :
    Failed sync phase moment disk error phase' after := by
  unfold outgoing at h
  simp only at h
  split at h
  · cases h
    exact .blank
  split at h
  · rename_i unread
    cases h
    exact .unread unread
  rename_i inherited session opened
  split at h
  · cases h
    exact .full opened
  split at h
  · rename_i failed
    cases h
    exact .uncommitted opened failed
  · cases h

/-- A failure that left some documents written which could not be put back. -/
def Torn : HandoffError → Prop
  | .uncommitted (.transaction _ _ restored) => restored = false
  | _ => False

theorem unchanged_of_failed {error : HandoffError} (housed : Housed sync.store home disk.tree)
    (failed : Failed sync phase moment disk error phase' after) (whole : ¬ Torn error) :
    Unchanged sync.store home disk.tree after.tree := by
  cases failed with
  | blank => exact .refl housed
  | unread => exact .refl housed
  | full => exact .refl housed
  | @uncommitted _ _ batch error after _ failed =>
    have ends := commitHandoff_meets housed batch moment.clock.stamped
    rw [failed] at ends
    rcases ends with ⟨-, prepared⟩ | ⟨path, cause, restored, log, rfl, wrote⟩
    · exact prepared.unchanged housed
    · cases restored with
      | true => exact wrote.unchanged housed
      | false => exact absurd rfl whole

/-- A failure of the store that left nothing behind: reading failed, nothing was staged yet, or all was
rolled back. -/
def RolledBack : HandoffError → Prop
  | .storage _ => True
  | .uncommitted (.transaction _ _ restored) => restored = true
  | .uncommitted _ => True
  | _ => False

theorem RolledBack.not_torn {error : HandoffError} (clean : RolledBack error) : ¬ Torn error := by
  intro torn
  unfold Torn at torn
  split at torn
  · subst torn
    cases clean
  · exact torn

/-! Opening a session -/

theorem load_congr {a b : Tree} (same : Unchanged sync.store home a b) (moment : Moment) :
    sync.load b moment = sync.load a moment := by
  have session := same.reads .session
  have changelog := same.reads .changelog
  have summary := same.reads .summary
  have missing := same.reads .missingDocs
  simp only [Doc.path] at session changelog summary missing
  simp only [load, Store.loadSession, Store.loadChangelog, Store.loadSummary, Store.loadMissingDocs,
    Store.load, readRaw, session, changelog, summary, missing]

theorem opened_congr {a b : Tree} (same : Unchanged sync.store home a b) (phase : Phase)
    (moment : Moment) : sync.opened phase b moment = sync.opened phase a moment := by
  cases phase with
  | idle => simp only [opened, load_congr same]
  | loaded inherited => rfl
  | active inherited session => rfl

def renew (session : Session) (id : SessionId) (startedAt : Time) : Session :=
  { session with id, startedAt }

theorem load_ok {briefing : Briefing} {inherited : Inherited}
    (h : sync.load tree moment = .ok (briefing, inherited)) :
    ∃ changelog summary, sync.store.loadChangelog tree = .ok changelog ∧
      sync.store.loadSummary tree = .ok summary ∧ inherited.changelog = changelog.getD .empty ∧
      inherited.projectVersion = summary.map (·.version) := by
  unfold load at h
  obtain ⟨previous, -, h⟩ := Fallible.bind_ok h
  obtain ⟨changelog, loadedChangelog, h⟩ := Fallible.bind_ok h
  obtain ⟨summary, loadedSummary, h⟩ := Fallible.bind_ok h
  obtain ⟨missing, -, h⟩ := Fallible.bind_ok h
  cases h
  exact ⟨changelog, summary, loadedChangelog, loadedSummary, rfl, rfl⟩

theorem incoming_of_load {briefing : Briefing} {inherited : Inherited}
    (loads : sync.load tree moment = .ok (briefing, inherited)) :
    sync.incoming .idle tree moment = (.ok briefing, .loaded inherited) := by
  simp only [incoming, loads]

/-- When a session is opened makes no difference but to its id and its start. -/
theorem opened_alike {later : Moment} {inherited inherited' : Inherited} {session session' : Session}
    (first : sync.opened phase tree moment = .ok (inherited, session))
    (second : sync.opened phase tree later = .ok (inherited', session')) :
    inherited'.changelog = inherited.changelog ∧
      inherited'.projectVersion = inherited.projectVersion ∧
      session' = renew session session'.id session'.startedAt := by
  cases phase with
  | active => cases first; cases second; exact ⟨rfl, rfl, rfl⟩
  | loaded => cases first; cases second; exact ⟨rfl, rfl, rfl⟩
  | idle =>
    obtain ⟨⟨_, loaded⟩, load, first⟩ := Fallible.bind_ok first
    obtain ⟨⟨_, loaded'⟩, load', second⟩ := Fallible.bind_ok second
    cases first
    cases second
    obtain ⟨changelog, summary, loadedChangelog, loadedSummary, same, version⟩ := load_ok load
    obtain ⟨changelog', summary', loadedChangelog', loadedSummary', same', version'⟩ := load_ok load'
    rw [loadedChangelog] at loadedChangelog'
    rw [loadedSummary] at loadedSummary'
    cases loadedChangelog'
    cases loadedSummary'
    exact ⟨same'.trans same.symm, version'.trans version.symm, rfl⟩

theorem closing_congr {inherited inherited' : Inherited} (session : Session) (now : Time)
    (changelog : inherited'.changelog = inherited.changelog)
    (version : inherited'.projectVersion = inherited.projectVersion) :
    sync.closing inherited' session request now = sync.closing inherited session request now := by
  simp only [closing, batch, close, changelog, version]

end Waymark.Synchronizer
