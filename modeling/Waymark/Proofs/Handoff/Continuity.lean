import Waymark.Proofs.Document.Restore
import Waymark.Proofs.Handoff.Retry

/-! From one session to the next. What a handoff commits is what the incoming session reads, and the
session that it begins starts where the one before was completed.
-/

set_option autoImplicit false

namespace Waymark.Synchronizer

open Store

variable {sync next : Synchronizer} {store : Store} {phase last : Phase} {request : HandoffRequest}
  {moment later : Moment} {disk after : Disk} {home : Home} {start tree before : Tree}
  {report : HandoffReport} {batch : Batch} {log : List Char} {now : Time}

/-- Successful handoffs one after another, with the documents of one store. -/
inductive Handoffs (store : Store) (start : Tree) : Tree → Prop where
  | none : Handoffs store start start
  | next {sync : Synchronizer} {phase last : Phase} {request : HandoffRequest} {moment : Moment}
    {disk after : Disk} {report : HandoffReport} (earlier : Handoffs store start disk.tree)
    (ofStore : sync.store = store)
    (succeeded : sync.outgoing phase request moment disk = (.ok report, last, after)) :
    Handoffs store start after.tree

structure Readable (store : Store) (home : Home) (tree : Tree) : Prop where
  housed : Housed store home tree
  summary : ∃ summary, store.loadSummary tree = .ok summary
  missing : ∃ missing, store.loadMissingDocs tree = .ok missing

theorem readable_of_load {found : Briefing × Inherited} (housed : Housed sync.store home tree)
    (loads : sync.load tree moment = .ok found) : Readable sync.store home tree := by
  unfold load at loads
  obtain ⟨previous, -, loads⟩ := Fallible.bind_ok loads
  obtain ⟨changelog, -, loads⟩ := Fallible.bind_ok loads
  obtain ⟨summary, loadedSummary, loads⟩ := Fallible.bind_ok loads
  obtain ⟨missing, loadedMissing, -⟩ := Fallible.bind_ok loads
  exact ⟨housed, ⟨summary, loadedSummary⟩, ⟨missing, loadedMissing⟩⟩

theorem load_of_read {α : Type} {path : Path} {raw : ByteArray} {decode : ByteArray → Decoded α} {value : α}
    (read : tree.readOptional path = .ok (some raw)) (decoded : decode raw = .ok value) :
    Store.load tree path decode = .ok (some value) := by
  have raw' : readRaw tree path = .ok (some raw) := by rw [readRaw, read]; rfl
  rw [Store.load, raw']
  simp only [bind, Except.bind, decodeAt, decoded, Except.mapError, pure, Except.pure]

theorem load_congr_read {α : Type} {path : Path} {decode : ByteArray → Decoded α}
    (same : tree.readOptional path = before.readOptional path) :
    Store.load tree path decode = Store.load before path decode := by
  simp only [Store.load, readRaw, same]

theorem files_apart (home : Home) (batch : Batch) (log : List Char) (now : Time) :
    ∀ file ∈ batch.files log now,
      Doc.summary.place home ≠ file.1.place home ∧ Doc.missingDocs.place home ≠ file.1.place home := by
  intro file member
  have of := ofHandoff_of_mem_files member
  exact ⟨Doc.place_ne_of_handoff of id, Doc.place_ne_of_handoff of id⟩

theorem readable_of_saved (readable : Readable store home before)
    (saved : Saved store home (batch.files log now) before tree) : Readable store home tree where
  housed := saved.housed
  summary := by
    obtain ⟨summary, loaded⟩ := readable.summary
    have same := saved.others .summary fun file member => (files_apart home batch log now file member).1
    exact ⟨summary, (load_congr_read same).trans loaded⟩
  missing := by
    obtain ⟨missing, loaded⟩ := readable.missing
    have same := saved.others .missingDocs fun file member => (files_apart home batch log now file member).2
    exact ⟨missing, (load_congr_read same).trans loaded⟩

theorem Handoffs.readable (h : Handoffs store start tree) (readable : Readable store home start) :
    Readable store home tree := by
  induction h with
  | none => exact readable
  | next earlier ofStore succeeded ih =>
    subst ofStore
    obtain ⟨inherited, session, batch, log, -, -, -, saved, -⟩ := outgoing_saved ih.housed succeeded
    exact readable_of_saved ih saved

/-! What is read back -/

theorem session_mem_files (batch : Batch) (log : List Char) (now : Time) :
    (Doc.session, batch.session.write.toUTF8) ∈ batch.files log now := by
  simp [Batch.files]

theorem changelog_mem_files (batch : Batch) (log : List Char) (now : Time) :
    (Doc.changelog, batch.changelog.write.toUTF8) ∈ batch.files log now := by
  simp [Batch.files]

theorem loadSession_of_saved (saved : Saved store home (batch.files log now) before tree)
    (adopted : SessionId) : store.loadSession tree adopted = .ok (some batch.session) := by
  have read := saved.written _ (session_mem_files batch log now)
  simp only [Doc.path] at read
  rw [loadSession]
  exact load_of_read read (batch.session.readSession_write adopted)

theorem loadChangelog_of_saved (saved : Saved store home (batch.files log now) before tree) :
    store.loadChangelog tree = .ok (some batch.changelog) := by
  have read := saved.written _ (changelog_mem_files batch log now)
  simp only [Doc.path] at read
  rw [loadChangelog]
  exact load_of_read read batch.changelog.readChangelog_write

theorem load_of_saved (readable : Readable next.store home before)
    (saved : Saved next.store home (batch.files log now) before tree) (moment : Moment) :
    ∃ briefing inherited, next.load tree moment = .ok (briefing, inherited) ∧
      inherited.previous = some batch.session ∧ inherited.changelog = batch.changelog ∧
      briefing.priorityItems = batch.session.priorityItems ∧
      briefing.previousSummary = batch.session.lastSummary ∧
      briefing.previousOutcome = some batch.session.outcome ∧
      briefing.changelogVersion = batch.changelog.version := by
  obtain ⟨-, ⟨summary, loadedSummary⟩, ⟨missing, loadedMissing⟩⟩ := readable_of_saved readable saved
  have loadedSession := loadSession_of_saved saved moment.adopted
  have loadedChangelog := loadChangelog_of_saved saved
  simp only [load, loadedSession, loadedChangelog, loadedSummary, loadedMissing, bind, Except.bind, pure,
    Except.pure]
  exact ⟨_, _, rfl, rfl, rfl, rfl, rfl, rfl, rfl⟩

/-- The next session is told what the handoff before it reported, and what it begins starts at the time
at which the session before was completed. -/
structure Continues (next : Synchronizer) (request : HandoffRequest) (moment later : Moment)
    (report : HandoffReport) (tree : Tree) (briefing : Briefing) (inherited : Inherited) : Prop where
  incoming : next.incoming .idle tree later = (.ok briefing, .loaded inherited)
  priorityItems : briefing.priorityItems = report.priorityItems
  previousSummary : briefing.previousSummary = some (trimmed request)
  previousOutcome : briefing.previousOutcome = some request.outcome
  changelogVersion : briefing.changelogVersion = report.changelogVersion
  closed : ∃ closed, next.store.loadSession tree later.adopted = .ok (some closed) ∧
    closed.completedAt = some moment.now
  begins : ∀ opening, ∃ session,
    next.begin (.loaded inherited) opening = (.ok session, .active inherited session) ∧
      session.startedAt = moment.now

/-- After any number of successful handoffs over documents that could be read, the next session
continues the one that was handed off last. -/
theorem incoming_continues {found : Briefing × Inherited} {first : Moment}
    (housed : Housed sync.store home start) (loads : sync.load start first = .ok found)
    (earlier : Handoffs sync.store start disk.tree)
    (succeeded : sync.outgoing phase request moment disk = (.ok report, last, after))
    (ofStore : next.store = sync.store) (later : Moment) :
    ∃ briefing inherited, Continues next request moment later report after.tree briefing inherited := by
  have readable := earlier.readable (readable_of_load housed loads)
  obtain ⟨inherited, session, batch, log, -, closed, -, saved, rfl⟩ := outgoing_saved readable.housed succeeded
  rw [← ofStore] at readable saved
  have loadedSession := loadSession_of_saved saved later.adopted
  obtain ⟨briefing, inherited', loaded, previous, -, items, summary, outcome, version⟩ :=
    load_of_saved readable saved later
  obtain ⟨sequence, version', -, -, rfl⟩ := closing_ok closed
  refine ⟨briefing, inherited', ?_, items, summary, outcome, version, ⟨_, loadedSession, rfl⟩, ?_⟩
  · simp only [incoming, loaded]
  · intro opening
    refine ⟨_, rfl, ?_⟩
    -- The session before was completed at the moment of the handoff.
    simp only [newSession, previous, Session.start]
    rfl

theorem bare_loads : ∃ found, rooted.load Tree.empty midnight = .ok found := by
  have loads : (rooted.load Tree.empty midnight).isOk = true := by decide +kernel
  exact Fallible.exists_of_isOk loads

theorem incoming_continues_bare : ∃ last after briefing inherited,
    rooted.outgoing .idle unfinished oneOClock (.ofTree Tree.empty 0) =
      (.ok ⟨⟨3⟩, ⟨1, 1, 0⟩, ["log"], 0⟩, last, after) ∧
    Continues rooted unfinished oneOClock midnight ⟨⟨3⟩, ⟨1, 1, 0⟩, ["log"], 0⟩ after.tree briefing inherited := by
  obtain ⟨last, after, succeeded⟩ := bare_succeeds
  obtain ⟨found, loads⟩ := bare_loads
  have before : Handoffs rooted.store Tree.empty (Disk.ofTree Tree.empty 0).tree := .none
  obtain ⟨briefing, inherited, continues⟩ :=
    incoming_continues housed_empty loads before succeeded rfl midnight
  exact ⟨last, after, briefing, inherited, succeeded, continues⟩

/-- A disk on which a link leads from the temporary file of the session to the one of the handoff. -/
def astray : Disk :=
  .ofTree ⟨[(["codebase_summary"], ⟨.directory, 0⟩),
    (["codebase_summary", "session_state.json.tmp"],
      ⟨.link ⟨"/codebase_summary/agent_handoff.json.tmp"⟩, 0⟩)], []⟩ 0

theorem session_lost_astray : ∃ report last after,
    rooted.outgoing .idle unfinished midnight astray = (.ok report, last, after) ∧
      ∀ adopted, rooted.store.loadSession after.tree adopted = .ok none := by
  have ran : (rooted.outgoing .idle unfinished midnight astray).1.isOk = true ∧
      (rooted.outgoing .idle unfinished midnight astray).2.2.tree.readOptional (Doc.session.path rooted.store) =
        .ok none := by
    decide +kernel
  obtain ⟨succeeded, lost⟩ := ran
  obtain ⟨report, outcome⟩ := Fallible.exists_of_isOk succeeded
  refine ⟨report, _, _, eq_of_outcome outcome, fun adopted => ?_⟩
  simp only [Doc.path] at lost
  simp only [loadSession, Store.load, readRaw, lost]
  rfl

/-- A disk on which the summary leads to where the directory of the checkpoint log is made. -/
def detached : Disk := .ofTree ⟨[(["codebase_summary.json"], ⟨.link ⟨"/checkpoints"⟩, 0⟩)], []⟩ 0

theorem summary_lost_detached : ∃ report last after,
    rooted.outgoing .idle unfinished midnight detached = (.ok report, last, after) ∧
      rooted.store.loadSummary after.tree = .error (.io (.ofFault .isDirectory)) := by
  have ran : (rooted.outgoing .idle unfinished midnight detached).1.isOk = true ∧
      (rooted.outgoing .idle unfinished midnight detached).2.2.tree.readOptional (Doc.summary.path rooted.store) =
        .error .isDirectory := by
    decide +kernel
  obtain ⟨succeeded, lost⟩ := ran
  obtain ⟨report, outcome⟩ := Fallible.exists_of_isOk succeeded
  refine ⟨report, _, _, eq_of_outcome outcome, ?_⟩
  simp only [Doc.path] at lost
  simp only [loadSummary, Store.load, readRaw, lost]
  rfl

/-- Links are not looked for. What a successful handoff has written can be lost where a link stood in the place of
a temporary file, and a document that was missing can lead to a directory that the handoff has made. -/
theorem incoming_loses_thread :
    ((rooted.load astray.tree midnight).isOk = true ∧
      ∃ report last after, rooted.outgoing .idle unfinished midnight astray = (.ok report, last, after) ∧
        ∀ later briefing inherited, rooted.incoming .idle after.tree later = (.ok briefing, .loaded inherited) →
          briefing.previousSummary = none) ∧
    (rooted.load detached.tree midnight).isOk = true ∧
      ∃ report last after, rooted.outgoing .idle unfinished midnight detached = (.ok report, last, after) ∧
        ∀ later, ∃ error, rooted.incoming .idle after.tree later = (.error error, .idle) := by
  refine ⟨⟨by decide +kernel, ?_⟩, by decide +kernel, ?_⟩
  · obtain ⟨report, last, after, succeeded, lost⟩ := session_lost_astray
    refine ⟨report, last, after, succeeded, fun later briefing inherited continued => ?_⟩
    cases loads : rooted.load after.tree later with
    | error error =>
      rw [incoming, loads] at continued
      cases continued
    | ok found =>
      -- The session is read first, and none is found.
      obtain ⟨previous, loaded, rest⟩ := Fallible.bind_ok loads
      rw [lost] at loaded
      cases loaded
      obtain ⟨changelog, -, rest⟩ := Fallible.bind_ok rest
      obtain ⟨summary, -, rest⟩ := Fallible.bind_ok rest
      obtain ⟨missing, -, rest⟩ := Fallible.bind_ok rest
      cases rest
      rw [incoming_of_load loads] at continued
      cases continued
      rfl
  · obtain ⟨report, last, after, succeeded, lost⟩ := summary_lost_detached
    refine ⟨report, last, after, succeeded, fun later => ?_⟩
    cases loads : rooted.load after.tree later with
    | error error => exact ⟨.storage error, by rw [incoming, loads]⟩
    | ok found =>
      obtain ⟨-, summary, -, loaded, -⟩ := load_ok loads
      rw [lost] at loaded
      cases loaded

end Waymark.Synchronizer
