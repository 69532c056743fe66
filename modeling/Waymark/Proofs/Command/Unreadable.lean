import Waymark.Proofs.Command.Scan
import Waymark.Proofs.Document.Older
import Waymark.Proofs.Handoff.Register

/-! Documents that cannot be read. A file whose content is refused is never taken for a missing one: the
commands that need it stop before they touch the disk, and so what it holds is not overwritten.
-/

set_option autoImplicit false

namespace Waymark

open OnDisk

variable {α : Type} {decode : ByteArray → Decoded α} {tree : Tree} {path : Path} {store : Store}
  {sync : Synchronizer} {moment : Moment} {disk : Disk}

namespace Store

/-- A file that is there and holds no document of its kind. -/
def Refused (tree : Tree) (path : Path) (decode : ByteArray → Decoded α) : Prop :=
  ∃ raw refusal, tree.readOptional path = .ok (some raw) ∧ decode raw = .error refusal

theorem Refused.load (refused : Refused tree path decode) :
    ∃ refusal, Store.load tree path decode = .error (.schema path refusal) := by
  obtain ⟨raw, refusal, read, rejects⟩ := refused
  refine ⟨refusal, ?_⟩
  rw [Store.load, readRaw, read]
  change (decodeAt path decode raw).map some = _
  rw [decodeAt, rejects]
  rfl

theorem Refused.not_loaded (refused : Refused tree path decode) {found : Option α} :
    Store.load tree path decode ≠ .ok found := by
  obtain ⟨refusal, fails⟩ := refused.load
  rw [fails]
  rintro ⟨⟩

theorem readSession_refuses {raw : ByteArray} {id : SessionId} {refusal : Json.Refusal}
    (rejects : Document.readSession raw id = .error refusal) (other : SessionId) :
    Document.readSession raw other = .error refusal := by
  unfold Document.readSession at rejects ⊢
  cases is : Document.value raw with
  | error refused =>
    rw [Document.readEither_unread is] at rejects ⊢
    exact rejects
  | ok json =>
    cases tagged : Document.isTagged json with
    | true =>
      rw [Document.readEither_tagged is tagged] at rejects ⊢
      exact rejects
    | false =>
      rw [Document.readEither_untagged is tagged] at rejects ⊢
      cases older : Legacy.sessionShape.decode json with
      | error refused =>
        rw [older] at rejects
        exact rejects
      | ok form =>
        rw [older] at rejects
        cases rejects

/-- One of the documents that a session starts from is refused. -/
inductive Unreadable (store : Store) (tree : Tree) : Prop where
  | session (id : SessionId) (refused : Refused tree store.paths.session (Document.readSession · id))
  | changelog (refused : Refused tree store.paths.changelog Document.readChangelog)
  | summary (refused : Refused tree store.paths.summary Document.readSummary)
  | missingDocs (refused : Refused tree store.paths.missingDocs Document.readMissingDocs)

end Store

open Store

theorem Synchronizer.load_of_unreadable (unreadable : Unreadable sync.store tree) (moment : Moment) :
    ∃ error, sync.load tree moment = .error error := by
  cases loads : sync.load tree moment with
  | error error => exact ⟨error, rfl⟩
  | ok found =>
    -- Loading needs all four documents.
    unfold Synchronizer.load at loads
    obtain ⟨session, loadedSession, loads⟩ := Fallible.bind_ok loads
    obtain ⟨changelog, loadedChangelog, loads⟩ := Fallible.bind_ok loads
    obtain ⟨summary, loadedSummary, loads⟩ := Fallible.bind_ok loads
    obtain ⟨missing, loadedMissing, -⟩ := Fallible.bind_ok loads
    cases unreadable with
    | session id refused =>
      obtain ⟨raw, refusal, read, rejects⟩ := refused
      have refused : Refused tree sync.store.paths.session (Document.readSession · moment.adopted) :=
        ⟨raw, refusal, read, readSession_refuses rejects moment.adopted⟩
      exact absurd loadedSession refused.not_loaded
    | changelog refused => exact absurd loadedChangelog refused.not_loaded
    | summary refused => exact absurd loadedSummary refused.not_loaded
    | missingDocs refused => exact absurd loadedMissing refused.not_loaded

namespace Register

variable {register : Register} {error : StoreError}

theorem incoming_unread (idle : register.stage = .idle) (fails : sync.load tree moment = .error error) :
    incoming sync tree moment register = (.error (.storage error), register) := by
  obtain ⟨stage, previous, changelog, projectVersion, session⟩ := register
  subst idle
  simp only [incoming, fails]
  rfl

theorem opened_unread (idle : register.stage = .idle) (fails : sync.load tree moment = .error error) :
    opened sync tree moment register = (.error (.storage error), register) := by
  obtain ⟨stage, previous, changelog, projectVersion, session⟩ := register
  subst idle
  simp only [opened, incoming, fails]
  rfl

/-- What reads the stored documents first fails, and leaves the disk and what is held as they are. -/
structure Stops (sync : Synchronizer) (moment : Moment) (disk : Disk) : Prop where
  incoming : ∀ register : Register, register.stage = .idle →
    ∃ error, perform sync .incoming moment register disk = (.error error, register, disk)
  outgoing : ∀ (register : Register) (request : HandoffRequest), register.stage = .idle →
    ∃ error, perform sync (.outgoing request) moment register disk = (.error error, register, disk)
  runIncoming : ∃ error, Command.runIncoming sync moment disk = (.error error, disk)
  runOutgoing : ∀ request, ∃ error, Command.runOutgoing sync request moment disk = (.error error, disk)

theorem stops_of_unread (fails : sync.load disk.tree moment = .error error) : Stops sync moment disk where
  incoming register idle := by
    refine ⟨.storage error, ?_⟩
    simp only [perform, aside, incoming_unread idle fails]
    rfl
  outgoing register request idle := by
    simp only [perform, outgoing, opened_unread idle fails]
    split
    · exact ⟨.emptySummary, rfl⟩
    · exact ⟨.storage error, rfl⟩
  runIncoming := by
    refine ⟨.handoff (.storage error), ?_⟩
    simp only [Command.runIncoming, Synchronizer.incoming, fails]
    rfl
  runOutgoing request := by
    have opened : sync.opened .idle disk.tree moment = .error error := by
      simp only [Synchronizer.opened, fails]
      rfl
    simp only [Command.runOutgoing, Synchronizer.outgoing, opened]
    split
    · exact ⟨.handoff .emptySummary, rfl⟩
    · exact ⟨.handoff (.storage error), rfl⟩

end Register

namespace Command

theorem runScan_refused {context : Context} {config : ScanConfig} {force : Bool} {verbosity : Option Verbosity}
    {now : Time} (refused : Refused disk.tree context.paths.summary Document.readSummary) :
    ∃ error, runScan context config force verbosity now disk = (.error error, disk) := by
  cases ran : runScan context config force verbosity now disk with
  | mk outcome after =>
  unfold runScan at ran
  rcases bind_cases ran with ⟨error, got, rfl⟩ | ⟨_, _, got, ran⟩
  · cases got
  cases got
  rcases bind_cases ran with ⟨error, scanning, rfl⟩ | ⟨found, _, scanning, ran⟩
  · obtain ⟨rfl, -⟩ := ofResult_cases scanning
    exact ⟨error, rfl⟩
  obtain ⟨rfl, -⟩ := ofResult_ok scanning
  rcases bind_cases ran with ⟨error, loading, rfl⟩ | ⟨prior, _, loading, -⟩
  · obtain ⟨rfl, -⟩ := ofResult_cases loading
    exact ⟨error, rfl⟩
  obtain ⟨-, loaded⟩ := ofResult_ok loading
  exact absurd loaded refused.not_loaded

/-- A document that cannot be read is not overwritten by the commands that depend on it: they fail, and
nothing on the disk and nothing that is held has changed. -/
theorem unreadable_untouched (disk : Disk) (moment : Moment) :
    (∀ context config force verbosity, Refused disk.tree context.paths.summary Document.readSummary →
      ∃ error, runScan context config force verbosity moment.now disk = (.error error, disk)) ∧
    ∀ sync, Unreadable sync.store disk.tree → Register.Stops sync moment disk := by
  constructor
  · intro context config force verbosity refused
    exact runScan_refused refused
  · intro sync unreadable
    obtain ⟨error, fails⟩ := sync.load_of_unreadable unreadable moment
    exact Register.stops_of_unread fails

def garbled : Disk := .ofTree ⟨[(["codebase_summary.json"], ⟨.file "x".toUTF8, 0⟩)], []⟩ 1

theorem garbled_refused : Refused garbled.tree rootContext.paths.summary Document.readSummary :=
  ⟨"x".toUTF8, .malformed, by decide +kernel, by decide +kernel⟩

theorem unreadable_untouched_garbled :
    Refused garbled.tree rootContext.paths.summary Document.readSummary ∧
    (∃ error, runScan rootContext .default true none .epoch garbled = (.error error, garbled)) ∧
    Register.Stops Synchronizer.rooted Synchronizer.midnight garbled := by
  have refused := garbled_refused
  obtain ⟨scan, handoff⟩ := unreadable_untouched garbled Synchronizer.midnight
  exact ⟨refused, scan rootContext .default true none refused,
    handoff Synchronizer.rooted (.summary refused)⟩

end Command

end Waymark
