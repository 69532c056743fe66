import Waymark.Proofs.Checkpoint
import Waymark.Proofs.Document.Archive
import Waymark.Proofs.Handoff.Run

/-! The documents of a store belong together: the session, the handoff, the changelog with its archive and
the checkpoint log are those of the handoff that was committed last, however many others have failed.
-/

set_option autoImplicit false

namespace Waymark.Synchronizer

open Store

variable {store : Store} {home : Home} {start tree before after : Tree} {phase : Phase}
  {commits : List Commit} {session : Session} {log : Changelog} {batch : Batch} {now : Time} {clock : Clock}
  {sync : Synchronizer} {request : HandoffRequest} {inherited : Inherited} {entry : ChangelogEntry}

/-- The newest entry: the first one of the changelog or, where the changelog keeps none, the first one of
the archive that the session left when it was closed. -/
inductive Newest (store : Store) (tree : Tree) (session : Session) (log : Changelog) (clock : Clock)
    (entry : ChangelogEntry) : Prop where
  | kept (first : log.entries.head? = some entry)
  | archived {raw : ByteArray} {archive : ChangelogArchive} (none : log.entries = [])
    (there : tree.readOptional (store.archivePath session.projectVersion clock.stamped) = .ok (some raw))
    (read : ChangelogArchive.read raw = .ok archive) (closed : archive.archivedAt = clock.now)
    (first : archive.entries.head? = some entry)

/-- The entry tells of the session and of the version that it led to. -/
structure Recounts (entry : ChangelogEntry) (session : Session) (log : Changelog) : Prop where
  version : entry.version = log.version
  summary : session.lastSummary = some entry.summary
  projectVersion : entry.projectVersion = session.projectVersion
  category : entry.category = if session.outcome = .completed then .feature else .bug

def OpensWith (text : List Char) (session : Session) (log : Changelog) (now : Time) : Prop :=
  ∃ first older, CheckpointLog.sections text = first :: older ∧
    (Checkpoint.stateLines now log.version session.projectVersion).flatMap (· ++ ['\n']) <+: first

/-- What is stored is what one handoff has left. -/
structure Coherent (store : Store) (tree : Tree) (session : Session) (log : Changelog) (clock : Clock) :
    Prop where
  storedSession : ∀ adopted, store.loadSession tree adopted = .ok (some session)
  storedChangelog : store.loadChangelog tree = .ok (some log)
  storedHandoff : store.loadHandoff tree = .ok (some (.ofSession session log.version clock.now))
  completed : session.completedAt = some clock.now
  updated : log.lastUpdated = some clock.now
  checkpoint : ∃ text, store.loadCheckpointLog tree = .ok text ∧ OpensWith text session log clock.now
  newest : ∃ entry, Newest store tree session log clock entry ∧ Recounts entry session log

theorem Newest.unchanged (newest : Newest store before session log clock entry)
    (same : Unchanged store home before after) : Newest store after session log clock entry := by
  cases newest with
  | kept first => exact .kept first
  | archived none there read closed first =>
    have archive := same.reads (.archive session.projectVersion clock.stamped)
    simp only [Doc.path] at archive
    exact .archived none (archive.trans there) read closed first

theorem Coherent.unchanged (coherent : Coherent store before session log clock)
    (same : Unchanged store home before after) : Coherent store after session log clock where
  storedSession adopted := by
    have read := same.reads .session
    simp only [Doc.path] at read
    rw [← coherent.storedSession adopted, loadSession, loadSession, load_congr_read read]
  storedChangelog := by rw [← coherent.storedChangelog, loadChangelog_congr same]
  storedHandoff := by
    have read := same.reads .handoff
    simp only [Doc.path] at read
    rw [← coherent.storedHandoff, loadHandoff, loadHandoff, load_congr_read read]
  completed := coherent.completed
  updated := coherent.updated
  checkpoint := by
    obtain ⟨text, loaded, opens⟩ := coherent.checkpoint
    have read := same.reads .checkpointLog
    simp only [Doc.path] at read
    refine ⟨text, ?_, opens⟩
    simpa only [loadCheckpointLog, readRaw, read] using loaded
  newest := by
    obtain ⟨entry, newest, recounts⟩ := coherent.newest
    exact ⟨entry, newest.unchanged same, recounts⟩

/-! What a handoff leaves -/

theorem loadHandoff_of_saved {previous : List Char}
    (saved : Saved store home (batch.files previous now) before after) :
    store.loadHandoff after = .ok (some batch.handoff) := by
  have member : (Doc.handoff, batch.handoff.write.toUTF8) ∈ batch.files previous now := by simp [Batch.files]
  have read := saved.written _ member
  simp only [Doc.path] at read
  rw [loadHandoff]
  exact load_of_read read batch.handoff.readHandoff_write

theorem loadCheckpointLog_of_saved {text : List Char}
    (saved : Saved store home (batch.files text now) before after) : store.loadCheckpointLog after = .ok text := by
  have member : (Doc.checkpointLog, (String.ofList text).toUTF8) ∈ batch.files text now := by simp [Batch.files]
  have read := saved.written _ member
  simp only [Doc.path] at read
  have raw : readRaw after store.paths.checkpointLog = .ok (some (String.ofList text).toUTF8) := by
    rw [readRaw, read]
    rfl
  rw [loadCheckpointLog, raw]
  exact congrArg Except.ok ((Text.Utf8.read_toUTF8 _).trans String.toList_ofList)

theorem archive_of_saved {text : List Char} (saved : Saved store home (batch.files text now) before after)
    (some : batch.archived ≠ []) : ∃ raw archive,
      after.readOptional (store.archivePath batch.checkpoint.projectVersion now) = .ok (.some raw) ∧
      ChangelogArchive.read raw = .ok archive ∧ archive.archivedAt = batch.checkpoint.timestamp ∧
      archive.entries = batch.archived := by
  have written : batch.archive? = .some ⟨batch.checkpoint.timestamp, batch.checkpoint.projectVersion,
      Count.ofLength batch.archived, batch.archived⟩ := by
    rw [Batch.archive?, List.isEmpty_eq_false_iff.2 some, if_neg (by decide)]
  have member : (Doc.archive batch.checkpoint.projectVersion now, (ChangelogArchive.mk batch.checkpoint.timestamp
      batch.checkpoint.projectVersion (Count.ofLength batch.archived) batch.archived).write.toUTF8) ∈
      batch.files text now := by simp [Batch.files, written]
  have read := saved.written _ member
  simp only [Doc.path] at read
  exact ⟨_, _, read, ChangelogArchive.read_write _, rfl, rfl⟩

theorem newest_of_saved {text : List Char} (saved : Saved store home (batch.files text clock.stamped) before after)
    (closed : sync.closing inherited session request clock.now = .ok batch) : ∃ entry,
      Newest store after batch.session batch.changelog clock entry ∧ Recounts entry batch.session batch.changelog := by
  obtain ⟨sequence, version, -, -, rfl⟩ := closing_ok closed
  have recounts : Recounts (Synchronizer.newest inherited request sequence version clock.now)
      (close inherited session request (trimmed request) clock.now)
      (inherited.changelog.advanced sync.retention.changelogRetention.toNat sequence
        (Synchronizer.newest inherited request sequence version clock.now)) := by
    refine ⟨rfl, rfl, rfl, ?_⟩
    change request.outcome.category = if request.outcome = .completed then Category.feature else .bug
    cases request.outcome <;> rfl
  refine ⟨_, ?_, recounts⟩
  -- A changelog that keeps no entry gives the new one to the archive.
  cases retention : sync.retention.changelogRetention.toNat with
  | zero =>
    obtain ⟨raw, archive, there, read, archivedAt, entries⟩ := archive_of_saved saved (by simp [retention])
    refine .archived ?_ there read archivedAt ?_
    · simp only [Changelog.advanced, List.take_zero]
    · rw [entries]
      simp only [retention, List.drop_zero, List.head?_cons]
  | succ kept =>
    refine .kept ?_
    simp only [Changelog.advanced, List.take_succ_cons, List.head?_cons]

theorem coherent_of_saved {previous : List Char}
    (saved : Saved store home (batch.files (batch.log previous) clock.stamped) before after)
    (closed : sync.closing inherited session request clock.now = .ok batch) :
    Coherent store after batch.session batch.changelog clock := by
  have newest := newest_of_saved saved closed
  have handoff := loadHandoff_of_saved saved
  have log := loadCheckpointLog_of_saved saved
  obtain ⟨first, older, sections, opens⟩ :=
    CheckpointLog.sections_prepend previous batch.checkpoint batch.checkpointRetention
  constructor
  · exact loadSession_of_saved saved
  · exact loadChangelog_of_saved saved
  · rw [handoff]
    obtain ⟨sequence, version, -, -, rfl⟩ := closing_ok closed
    rfl
  · obtain ⟨sequence, version, -, -, rfl⟩ := closing_ok closed
    rfl
  · obtain ⟨sequence, version, -, -, rfl⟩ := closing_ok closed
    rfl
  · refine ⟨_, log, first, older, sections, ?_⟩
    obtain ⟨sequence, version, -, -, rfl⟩ := closing_ok closed
    exact opens
  · exact newest

/-! Whole runs -/

/-- Whatever has failed since, what is stored is what the last handoff has left that was committed. -/
theorem Run.coherent (run : Run store start commits phase tree) (housed : Housed store home start) :
    ∀ last ∈ commits.head?, Coherent store tree last.batch.session last.batch.changelog last.clock := by
  induction run with
  | start =>
    intro last none
    cases none
  | quiet earlier step ih =>
    intro last committed
    exact (ih last committed).unchanged (step.unchanged (earlier.housed housed))
  | committed earlier ofStore closes step ih =>
    intro last newest
    cases newest
    subst ofStore
    obtain ⟨previous, -, saved⟩ := saved_of_closes (earlier.housed housed) closes step
    obtain ⟨inherited, session, -, closed⟩ := closes
    exact coherent_of_saved saved closed

/-- The first handoff of a store leaves documents that belong together. -/
theorem Run.coherent_bare : ∃ commit tree, Run rooted.store Tree.empty [commit] .idle tree ∧
    Housed rooted.store (.ofRoot []) Tree.empty ∧
    Coherent rooted.store tree commit.batch.session commit.batch.changelog commit.clock := by
  obtain ⟨last, ended, succeeded⟩ := bare_succeeds
  have bare : Run rooted.store Tree.empty [] .idle (Disk.ofTree Tree.empty 0).tree := by
    rw [Disk.tree_ofTree]
    exact .start
  obtain ⟨batch, run⟩ := bare.outgoing succeeded
  rw [idle_of_outgoing succeeded] at run
  exact ⟨_, _, run, housed_empty, run.coherent housed_empty _ rfl⟩

/-- Where a link stands in the place of a temporary file, a handoff can succeed and leave no session that its other
documents could belong to. -/
theorem incoherent_through_link : ∃ commit tree, Run rooted.store astray.tree [commit] .idle tree ∧
    ∀ session log clock, ¬Coherent rooted.store tree session log clock := by
  obtain ⟨report, last, after, succeeded, lost⟩ := session_lost_astray
  obtain ⟨batch, run⟩ := (show Run rooted.store astray.tree [] .idle astray.tree from .start).outgoing succeeded
  rw [idle_of_outgoing succeeded] at run
  refine ⟨_, _, run, fun session log clock coherent => ?_⟩
  have stored := coherent.storedSession ⟨0⟩
  rw [lost] at stored
  cases stored

end Waymark.Synchronizer
