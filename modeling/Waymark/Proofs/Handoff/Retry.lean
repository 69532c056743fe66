import Mathlib.Control.Monad.Basic
import Waymark.Proofs.Handoff.Closing

/-! Attempts at a handoff one after another. However many of them fail and are rolled back, the one that
succeeds commits what the first one would have committed.
-/

set_option autoImplicit false

namespace Waymark.Synchronizer

open OnDisk Transaction Store

/-- What a failed attempt leaves: every document as it was, and the phase as it was once the session was
open. Where the documents could not even be read, nothing has happened. -/
structure Traceless (sync : Synchronizer) (home : Home) (phase : Phase) (moment : Moment)
    (tree : Tree) (error : HandoffError) (last : Phase) (after : Tree) : Prop where
  unchanged : Unchanged sync.store home tree after
  unread : ∀ cause, error = .storage cause → phase = .idle ∧ last = .idle ∧ after = tree
  uncommitted : ∀ cause, error = .uncommitted cause → ∃ inherited session,
    sync.opened phase tree moment = .ok (inherited, session) ∧ last = .active inherited session

/-- Failed attempts one after another, from a phase and a tree to others. -/
inductive Retries (sync : Synchronizer) (request : HandoffRequest) (phase : Phase) (tree : Tree) :
    Phase → Tree → Prop where
  | none : Retries sync request phase tree phase tree
  | again {phase' last : Phase} {moment : Moment} {disk after : Disk} {error : HandoffError}
    (earlier : Retries sync request phase tree phase' disk.tree)
    (failed : sync.outgoing phase' request moment disk = (.error error, last, after))
    (clean : RolledBack error) : Retries sync request phase tree last after.tree

/-- The ends of two handoffs that close one session. Both write the documents of that session over the
same checkpoint log, and beyond the clock and the id of a session that was begun they write the same. -/
def SameHandoff (sync : Synchronizer) (home : Home) (phase : Phase) (tree : Tree)
    (request : HandoffRequest) (first later : Moment) (ended ended' : HandoffReport × Tree) : Prop :=
  ∃ inherited session id startedAt log batch batch',
    sync.opened phase tree first = .ok (inherited, session) ∧
    sync.store.loadCheckpointLog tree = .ok log ∧
    sync.closing inherited session request first.now = .ok batch ∧
    sync.closing inherited (renew session id startedAt) request later.now = .ok batch' ∧
    Saved sync.store home (batch.files (batch.log log) first.clock.stamped) tree ended.2 ∧
    Saved sync.store home (batch'.files (batch'.log log) later.clock.stamped) tree ended'.2 ∧
    Alike batch batch' ∧ Once inherited session request batch ∧ Once inherited session request batch' ∧
    ended.1 = report batch ∧ ended'.1 = { ended.1 with sessionId := batch'.session.id }

variable {sync : Synchronizer} {phase phase' last : Phase} {request : HandoffRequest} {moment : Moment}
  {disk after : Disk} {home : Home} {tree tree' : Tree}

theorem traceless {error : HandoffError} (housed : Housed sync.store home disk.tree)
    (failed : sync.outgoing phase request moment disk = (.error error, last, after))
    (clean : RolledBack error) : Traceless sync home phase moment disk.tree error last after.tree where
  unchanged := unchanged_of_failed housed (outgoing_error failed) clean.not_torn
  unread cause is := by
    subst is
    cases outgoing_error failed with
    | unread unread =>
      -- Reading happens in the idle phase only; elsewhere the session opens without it.
      cases phase with
      | idle => exact ⟨rfl, rfl, rfl⟩
      | loaded inherited => cases unread
      | active inherited session => cases unread
  uncommitted cause is := by
    subst is
    cases outgoing_error failed with
    | uncommitted opened => exact ⟨_, _, opened, rfl⟩

theorem Retries.unchanged (h : Retries sync request phase tree phase' tree')
    (housed : Housed sync.store home tree) : Unchanged sync.store home tree tree' := by
  induction h with
  | none => exact .refl housed
  | again earlier failed clean ih =>
    exact ih.trans (unchanged_of_failed ih.housed (outgoing_error failed) clean.not_torn)

theorem Retries.opened (h : Retries sync request phase tree phase' tree')
    (housed : Housed sync.store home tree) : phase' = phase ∨ ∃ moment inherited session,
      sync.opened phase tree moment = .ok (inherited, session) ∧ phase' = .active inherited session := by
  induction h with
  | none => exact .inl rfl
  | @again phase' last moment disk after error earlier failed clean ih =>
    have same := earlier.unchanged housed
    cases outgoing_error failed with
    | blank => cases clean
    | unread => exact ih
    | full => cases clean
    | uncommitted opened =>
      rcases ih with rfl | ⟨moment, inherited, session, before, rfl⟩
      · rw [opened_congr same] at opened
        exact .inr ⟨_, _, _, opened, rfl⟩
      · cases opened
        exact .inr ⟨moment, _, _, before, rfl⟩

theorem Retries.opened_alike {first later : Moment} {inherited inherited' : Inherited}
    {session session' : Session} (h : Retries sync request phase tree phase' tree')
    (housed : Housed sync.store home tree)
    (open_ : sync.opened phase tree first = .ok (inherited, session))
    (open' : sync.opened phase' tree' later = .ok (inherited', session')) :
    inherited'.changelog = inherited.changelog ∧
      inherited'.projectVersion = inherited.projectVersion ∧
      session' = renew session session'.id session'.startedAt := by
  rcases h.opened housed with rfl | ⟨moment, _, _, before, rfl⟩
  · rw [opened_congr (h.unchanged housed)] at open'
    exact Synchronizer.opened_alike open_ open'
  · cases open'
    exact Synchronizer.opened_alike open_ before

theorem outgoing_saved {report : HandoffReport} (housed : Housed sync.store home disk.tree)
    (succeeded : sync.outgoing phase request moment disk = (.ok report, last, after)) :
    ∃ inherited session batch log, sync.opened phase disk.tree moment = .ok (inherited, session) ∧
      sync.closing inherited session request moment.now = .ok batch ∧
      sync.store.loadCheckpointLog disk.tree = .ok log ∧
      Saved sync.store home (batch.files (batch.log log) moment.clock.stamped) disk.tree after.tree ∧
      report = Synchronizer.report batch := by
  obtain ⟨inherited, session, batch, opened, closed, committed, rfl, rfl⟩ := outgoing_ok succeeded
  have ends := commitHandoff_meets housed batch moment.clock.stamped
  rw [committed] at ends
  obtain ⟨log, read, wrote⟩ := ends
  exact ⟨inherited, session, batch, log, opened, closed, read, wrote.saved housed, rfl⟩

theorem loadCheckpointLog_congr {a b : Tree} (same : Unchanged sync.store home a b) :
    sync.store.loadCheckpointLog b = sync.store.loadCheckpointLog a := by
  have read := same.reads .checkpointLog
  simp only [Doc.path] at read
  simp only [Store.loadCheckpointLog, readRaw, read]

theorem Retries.sameHandoff {later : Moment} {disk' after' : Disk} {last' : Phase}
    {ended ended' : HandoffReport} (h : Retries sync request phase tree phase' tree')
    (housed : Housed sync.store home tree) (start : disk.tree = tree) (again : disk'.tree = tree')
    (first : sync.outgoing phase request moment disk = (.ok ended, last, after))
    (second : sync.outgoing phase' request later disk' = (.ok ended', last', after')) :
    SameHandoff sync home phase tree request moment later (ended, after.tree) (ended', after'.tree) := by
  subst start again
  have same := h.unchanged housed
  obtain ⟨inherited, session, batch, log, opened, closed, read, saved, rfl⟩ := outgoing_saved housed first
  obtain ⟨inherited', session', batch', log', opened', closed', read', saved', rfl⟩ :=
    outgoing_saved same.housed second
  obtain ⟨changelog, version, renewed⟩ := h.opened_alike housed opened opened'
  rw [closing_congr session' later.now changelog version, renewed] at closed'
  rw [loadCheckpointLog_congr same, read] at read'
  cases read'
  have alike := closing_alike closed closed'
  -- Renewing a session leaves its tasks.
  have once := closing_once closed'
  exact ⟨inherited, session, _, _, log, batch, batch', opened, read, closed, closed', saved,
    saved'.of_unchanged same, alike, closing_once closed,
    ⟨once.entry, once.sequence, once.version, once.tasks⟩, rfl, alike.report⟩

/-- A failed handoff can be tried again without trace. After any number of failures that were rolled
back, a further one leaves everything as it is, and a success commits what the first attempt would have
committed. -/
theorem retry_without_trace (housed : Housed sync.store home tree)
    (retried : Retries sync request phase tree phase' tree') :
    (∀ moment disk error last after, disk.tree = tree' →
      sync.outgoing phase' request moment disk = (.error error, last, after) → RolledBack error →
      Traceless sync home phase' moment tree' error last after.tree) ∧
    ∀ first disk ended last after later disk' ended' last' after', disk.tree = tree →
      sync.outgoing phase request first disk = (.ok ended, last, after) → disk'.tree = tree' →
      sync.outgoing phase' request later disk' = (.ok ended', last', after') →
      SameHandoff sync home phase tree request first later (ended, after.tree) (ended', after'.tree) := by
  constructor
  · rintro moment disk error last after rfl failed clean
    exact traceless (retried.unchanged housed).housed failed clean
  · intro first disk ended last after later disk' ended' last' after' start succeeded again succeeded'
    exact retried.sameHandoff housed start again succeeded succeeded'

def rooted : Synchronizer := ⟨.ofPaths (.derive ⟨"/"⟩ ⟨"/"⟩), .standalone, .default⟩

theorem housed_empty : Housed rooted.store (.ofRoot []) Tree.empty := by
  have bare : ∀ k, k ≠ [] → Tree.empty.node? k = none := by
    intro k inner
    rw [Tree.node?_eq_item? _ inner]
    rfl
  apply Housed.of_unlinked
  · refine ⟨rfl, fun k name there => absurd (bare _ ?_) there⟩
    simp
  · exact ⟨⟨"/"⟩, ⟨"/"⟩, rfl, .there rfl rfl⟩
  · intro room _ target link
    rw [bare _ (by simp)] at link
    cases link
  · intro k document target link
    obtain ⟨doc, name, rfl, -⟩ := document.named
    rw [bare _ (by simp)] at link
    cases link

def unfinished : HandoffRequest := ⟨"done", .unresolved, ["log"]⟩

def midnight : Moment := ⟨Time.epoch, ⟨1⟩, ⟨2⟩⟩

theorem one_lt_hours : 1 < 24 := by decide

def oneOClock : Moment := ⟨({ Time.epoch with hour := ⟨1, one_lt_hours⟩ } : Time), ⟨3⟩, ⟨4⟩⟩

def stuck : Disk := (Disk.ofTree Tree.empty 0).withScript (.ofNumbers [2] [] .permissionDenied)

def refused : HandoffError :=
  .uncommitted (.transaction ⟨"/codebase_summary/agent_handoff.json"⟩
    ⟨.permissionDenied, some Disk.writeFailure⟩ true)

theorem eq_of_outcome {α : Type} {outcome : α} {result : α × Phase × Disk} (h : result.1 = outcome) :
    result = (outcome, result.2.1, result.2.2) := Prod.ext h rfl

theorem bare_succeeds : ∃ last after, rooted.outgoing .idle unfinished oneOClock (.ofTree Tree.empty 0) =
    (.ok ⟨⟨3⟩, ⟨1, 1, 0⟩, ["log"], 0⟩, last, after) := by
  refine ⟨_, _, eq_of_outcome ?_⟩
  decide +kernel

theorem retry_without_trace_second_write : ∃ phase between only second,
    rooted.outgoing .idle unfinished midnight stuck = (.error refused, phase, between) ∧
      Traceless rooted (.ofRoot []) .idle midnight Tree.empty refused phase between.tree ∧
      SameHandoff rooted (.ofRoot []) .idle Tree.empty unfinished oneOClock oneOClock
        (⟨⟨3⟩, ⟨1, 1, 0⟩, ["log"], 0⟩, only) (⟨⟨1⟩, ⟨1, 1, 0⟩, ["log"], 0⟩, second) := by
  obtain ⟨last, after, only⟩ := bare_succeeds
  obtain ⟨phase, between, failed, last', after', second⟩ :
      ∃ phase between, rooted.outgoing .idle unfinished midnight stuck = (.error refused, phase, between) ∧
        ∃ last' after', rooted.outgoing phase unfinished oneOClock (.ofTree between.tree 0) =
          (.ok ⟨⟨1⟩, ⟨1, 1, 0⟩, ["log"], 0⟩, last', after') := by
    refine ⟨_, _, eq_of_outcome ?_, _, _, eq_of_outcome ?_⟩ <;> decide +kernel
  have retried : Retries rooted unfinished .idle Tree.empty phase between.tree :=
    .again (show Retries _ _ _ _ _ stuck.tree from .none) failed rfl
  refine ⟨phase, between, after.tree, after'.tree, failed, ?_, ?_⟩
  · exact (retry_without_trace housed_empty .none).1 midnight stuck refused phase between rfl failed rfl
  · exact (retry_without_trace housed_empty retried).2 oneOClock (.ofTree Tree.empty 0) _ last after oneOClock
      (.ofTree between.tree 0) _ last' after' rfl only rfl second

/-- A disk on which the temporary file of the session leads to the summary and the second write fails. -/
def misled : Disk :=
  (Disk.ofTree ⟨[(["codebase_summary"], ⟨.directory, 0⟩),
    (["codebase_summary", "session_state.json.tmp"], ⟨.link ⟨"/codebase_summary.json"⟩, 0⟩)], []⟩ 1).withScript
    (.ofNumbers [2] [] .permissionDenied)

/-- A disk on which the handoff leads to its own temporary file and the third write fails. -/
def entangled : Disk :=
  (Disk.ofTree ⟨[(["codebase_summary"], ⟨.directory, 0⟩),
    (["codebase_summary", "agent_handoff.json.tmp"], ⟨.file "old".toUTF8, 0⟩),
    (["codebase_summary", "agent_handoff.json"], ⟨.link ⟨"/codebase_summary/agent_handoff.json.tmp"⟩, 0⟩)],
    []⟩ 1).withScript (.ofNumbers [3] [] .permissionDenied)

/-- Links are not looked for. What goes to a temporary file goes through a link in its place, and a document that
leads to a temporary file goes with it, so an attempt that is rolled back can leave another document. -/
theorem documents_change_through_links :
    ((rooted.outgoing .idle unfinished midnight misled).1 = .error refused ∧
      misled.tree.readOptional (Doc.summary.path rooted.store) = .ok none ∧
      (rooted.outgoing .idle unfinished midnight misled).2.2.tree.readOptional (Doc.summary.path rooted.store) ≠
        .ok none) ∧
    (rooted.outgoing .idle unfinished midnight entangled).1 =
        .error (.uncommitted (.transaction ⟨"/changelog_summary.json"⟩
          ⟨.permissionDenied, some Disk.writeFailure⟩ true)) ∧
      entangled.tree.readOptional (Doc.handoff.path rooted.store) = .ok (some "old".toUTF8) ∧
      (rooted.outgoing .idle unfinished midnight entangled).2.2.tree.readOptional (Doc.handoff.path rooted.store) =
        .ok none := by
  decide +kernel

end Waymark.Synchronizer
