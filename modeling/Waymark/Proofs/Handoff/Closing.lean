import Waymark.Proofs.Changelog
import Waymark.Proofs.Handoff.Attempt

/-! The documents of a closed session, field by field. The clock and the id of the session are stamped
on them and decide nothing else.
-/

set_option autoImplicit false

namespace Waymark.Synchronizer

variable {sync : Synchronizer} {inherited : Inherited} {session : Session} {request : HandoffRequest}
  {now later : Time} {batch batch' : Store.Batch}

def newest (inherited : Inherited) (request : HandoffRequest) (sequence : Count) (version : Version)
    (now : Time) : ChangelogEntry :=
  ⟨Changelog.entryId sequence, version, now, request.outcome.category, trimmed request,
    inherited.projectVersion⟩

theorem closing_ok (h : sync.closing inherited session request now = .ok batch) :
    ∃ sequence version, inherited.changelog.sequence.next = .ok sequence ∧
      inherited.changelog.version.bumpMinor = .ok version ∧
      batch = {
        session := close inherited session request (trimmed request) now
        handoff := .ofSession (close inherited session request (trimmed request) now) version now
        changelog := inherited.changelog.advanced sync.retention.changelogRetention.toNat sequence
          (newest inherited request sequence version now)
        archived := (newest inherited request sequence version now :: inherited.changelog.entries).drop
          sync.retention.changelogRetention.toNat
        checkpoint := ⟨now, version, inherited.projectVersion, request.outcome.category, trimmed request⟩
        checkpointRetention := sync.retention.checkpointRetention.toNat } := by
  unfold closing Synchronizer.batch at h
  -- The entry is recorded before anything is taken out.
  cases recording : inherited.changelog.record request.outcome.category (trimmed request)
      inherited.projectVersion now with
  | mk recorded entry =>
  simp only [recording] at h
  replace ⟨entry, done, h⟩ := Fallible.bind_ok h
  subst done
  cases taking : recorded.takeOverflow sync.retention.changelogRetention.toNat with
  | mk kept removed =>
  simp only [taking] at h
  replace ⟨removed, done, h⟩ := Fallible.bind_ok h
  subst done
  cases h
  obtain ⟨sequence, version, next, raised, rfl, rfl, rfl⟩ := Changelog.advance_ok recording taking
  exact ⟨sequence, version, next, raised, rfl⟩

/-- The batch hands over the session and what was inherited with one entry more, one step further, and
with each task once. -/
structure Once (inherited : Inherited) (session : Session) (request : HandoffRequest)
    (batch : Store.Batch) : Prop where
  entry : ∃ entry, entry.summary = trimmed request ∧
    batch.changelog.entries ++ batch.archived = entry :: inherited.changelog.entries
  sequence : inherited.changelog.sequence.next = .ok batch.changelog.sequence
  version : inherited.changelog.version.bumpMinor = .ok batch.changelog.version
  tasks : batch.session.completedTasks = session.completedTasks ++ request.tasks.filterMap task?

theorem closing_once (h : sync.closing inherited session request now = .ok batch) :
    Once inherited session request batch := by
  obtain ⟨sequence, version, next, raised, rfl⟩ := closing_ok h
  constructor
  · exact ⟨_, rfl, Changelog.advanced_entries ..⟩
  · exact next
  · exact raised
  · rfl

theorem closing_archived (h : sync.closing inherited session request now = .ok batch)
    (none : sync.retention.changelogRetention.toNat = 0) :
    ∃ entry, entry.version = batch.changelog.version ∧ batch.changelog.entries = [] ∧
      batch.archived = entry :: inherited.changelog.entries ∧
      batch.checkpoint.projectVersion = inherited.projectVersion := by
  obtain ⟨sequence, version, next, raised, rfl⟩ := closing_ok h
  refine ⟨newest inherited request sequence version now, rfl, ?_, ?_, rfl⟩
  · simp only [Changelog.advanced, none, List.take_zero]
  · simp only [none, List.drop_zero]

/-- Two batches that differ by times and by the id of the session only. -/
structure Alike (a b : Store.Batch) : Prop where
  session : ∃ id startedAt completedAt, b.session = { a.session with id, startedAt, completedAt }
  handoff : ∃ sessionId generatedAt, b.handoff = { a.handoff with sessionId, generatedAt }
  changelog : ∃ lastUpdated entries,
    b.changelog = { a.changelog with lastUpdated, entries } ∧ entries.length = a.changelog.entries.length
  entries : ∃ entry older date, a.changelog.entries ++ a.archived = entry :: older ∧
    b.changelog.entries ++ b.archived = { entry with date } :: older
  checkpoint : ∃ timestamp, b.checkpoint = { a.checkpoint with timestamp }
  checkpointRetention : b.checkpointRetention = a.checkpointRetention

theorem closing_alike {id : SessionId} {startedAt : Time}
    (first : sync.closing inherited session request now = .ok batch)
    (second : sync.closing inherited (renew session id startedAt) request later = .ok batch') :
    Alike batch batch' := by
  obtain ⟨sequence, version, next, raised, rfl⟩ := closing_ok first
  obtain ⟨sequence', version', next', raised', rfl⟩ := closing_ok second
  rw [next] at next'
  rw [raised] at raised'
  cases next'
  cases raised'
  constructor
  · exact ⟨id, startedAt, some later, rfl⟩
  · exact ⟨id, later, rfl⟩
  · -- The newest entries differ by their dates, of which the statistics know nothing.
    have redated := inherited.changelog.advanced_redated sync.retention.changelogRetention.toNat
      sequence (newest inherited request sequence version now) later
    refine ⟨some later, _, redated, ?_⟩
    simp only [Changelog.advanced, List.length_take, List.length_cons]
  · exact ⟨_, _, later, Changelog.advanced_entries .., Changelog.advanced_entries ..⟩
  · exact ⟨later, rfl⟩
  · rfl

theorem Alike.length_archived (alike : Alike batch batch') :
    batch'.archived.length = batch.archived.length := by
  obtain ⟨lastUpdated, entries, changelog, kept⟩ := alike.changelog
  obtain ⟨entry, older, date, all, all'⟩ := alike.entries
  have length := congrArg List.length all
  have length' := congrArg List.length all'
  rw [changelog] at length'
  simp only [List.length_append, List.length_cons] at length length'
  omega

theorem Alike.report (alike : Alike batch batch') :
    report batch' = { report batch with sessionId := batch'.session.id } := by
  obtain ⟨id, startedAt, completedAt, session⟩ := alike.session
  obtain ⟨lastUpdated, entries, changelog, -⟩ := alike.changelog
  have archived : Count.ofLength batch'.archived = Count.ofLength batch.archived :=
    congrArg UInt64.ofNat alike.length_archived
  simp only [Synchronizer.report, archived, changelog, session]

end Waymark.Synchronizer
