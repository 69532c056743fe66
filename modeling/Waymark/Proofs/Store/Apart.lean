import Waymark.Proofs.Store.History

/-! The documents of a scan and those of a handoff stand apart. What a handoff commits leaves the summary,
the report of missing markers and the history as they are, however the commit ends; and what a scan writes
is no document of a handoff.
-/

set_option autoImplicit false

namespace Waymark.Store

open OnDisk Transaction

variable {store other : Store} {home k : Location} {tree : Tree} {disk : Disk}
  {files : List (Doc × ByteArray)} {batch : Batch} {log : List Char} {now : Time} {doc : Doc}

theorem Shelved.of_paths (shelved : Shelved store home tree) (same : other.paths = store.paths) :
    Shelved other home tree :=
  ⟨shelved.toChronicle, shelved.housed.of_paths same⟩

/-! The two groups -/

def ScanPlace (home k : Location) : Prop :=
  (∃ doc : Doc, ¬doc.OfHandoff ∧ k = doc.place home) ∨ ∃ name, k = historyPlace home ++ [name]

/-- Where the documents of a handoff stand, with all that is in the directory of the archives. -/
def HandoffPlace (home k : Location) : Prop :=
  (∃ doc : Doc, doc.OfHandoff ∧ k = doc.place home) ∨ ∃ name, k = home ++ ["changelog_archives", name]

theorem ScanPlace.not_mem_places (place : ScanPlace home k) : k ∉ places home (batch.files log now) := by
  rcases place with ⟨doc, notOf, rfl⟩ | ⟨name, rfl⟩
  · exact not_mem_places (fun file among => Doc.place_ne_of_handoff (ofHandoff_of_mem_files among) notOf)
      fun other => doc.place_ne_temporary other home
  · intro among
    -- No document stands this deep.
    have short := (isDocument_of_mem_places among).length_le
    simp [historyPlace] at short

theorem historyPlace_not_mem_places : historyPlace home ∉ places home files := by
  refine not_mem_places (fun file _ same => ?_) fun other same => ?_
  · cases doc : file.1 <;> simp [doc, historyPlace, Doc.place, Doc.dir, Doc.room, Doc.name] at same
  · cases other <;> simp [historyPlace, Doc.temporary, Doc.dir, Doc.room, Doc.name] at same

theorem ScanPlace.off (place : ScanPlace home k) (doc : Doc) : ¬k <+: doc.dir home := by
  rcases place with ⟨other, -, rfl⟩ | ⟨name, rfl⟩
  · exact (isDocument_place other home).not_dir doc
  · intro above
    have short := Nat.le_trans above.length_le (doc.length_dir_le home)
    simp only [historyPlace, List.length_append, List.length_cons, List.length_nil] at short
    omega

theorem HandoffPlace.not_output (place : HandoffPlace home k) : ¬IsOutput home k := by
  have apart : ∀ other : Doc, ¬other.OfHandoff → ¬other.Beside home k := by
    rintro other notOf (same | same)
    · rcases place with ⟨doc, of, rfl⟩ | ⟨name, rfl⟩
      · exact Doc.place_ne_of_handoff of notOf same.symm
      · cases other with
        | session | handoff | changelog | checkpointLog | archive => exact absurd trivial notOf
        | summary | missingDocs => simp [Doc.dir, Doc.room, Doc.name] at same
    · rcases place with ⟨doc, of, rfl⟩ | ⟨name, rfl⟩
      · exact doc.place_ne_temporary other home same
      · cases other with
        | session | handoff | changelog | checkpointLog | archive => exact absurd trivial notOf
        | summary | missingDocs => simp [Doc.dir, Doc.room, Doc.name] at same
  rintro (⟨_, -, same⟩ | beside | beside)
  · rcases place with ⟨doc, of, rfl⟩ | ⟨name, rfl⟩
    · cases doc <;> simp [historyPlace, Doc.place, Doc.dir, Doc.room] at same
    · simp [historyPlace] at same
  · exact apart .summary id beside
  · exact apart .missingDocs id beside

theorem HandoffPlace.not_above_history (place : HandoffPlace home k) : ¬k <+: historyPlace home := by
  intro above
  rcases place with ⟨doc, of, rfl⟩ | ⟨name, rfl⟩
  · cases doc <;> simp [historyPlace, Doc.place, Doc.dir, Doc.room, Doc.name] at above
  · simp [historyPlace] at above

/-! Committing -/

theorem captured_same (housed : Housed store home disk.tree) (files : List (Doc × ByteArray))
    (off : ∀ doc : Doc, ¬k <+: doc.dir home) :
    (captured (store.staged files) disk).node? k = disk.tree.node? k := by
  have kept : Housed store home (captured (store.staged files) disk) ∧
      (captured (store.staged files) disk).node? k = disk.tree.node? k := by
    refine captured_keeps (I := fun tree => Housed store home tree ∧ tree.node? k = disk.tree.node? k) ?_
      ⟨housed, rfl⟩
    rintro file member between ⟨housed, same⟩
    obtain ⟨file, -, rfl⟩ := List.mem_map.1 member
    exact ⟨housed.ensureParent file.1, (housed.ensureParent_same (off file.1)).trans same⟩
  exact kept.2

theorem commitHandoff_same (housed : Housed store home disk.tree) (batch : Batch) (now : Time)
    (off : ∀ doc : Doc, ¬k <+: doc.dir home) (apart : ∀ log, k ∉ places home (batch.files log now)) :
    (store.commitHandoff batch now disk).2.tree.node? k = disk.tree.node? k := by
  unfold commitHandoff
  cases read : store.loadCheckpointLog disk.tree with
  | error error =>
    have asked : ask store.loadCheckpointLog disk = (.error error, disk) := by rw [ask, read]
    rw [bind_of_error asked]
  | ok log =>
    have asked : ask store.loadCheckpointLog disk = (.ok log, disk) := by rw [ask, read]
    rw [bind_of_ok asked]
    simp only [stagedFiles_eq]
    generalize written : batch.files (CheckpointLog.prepend log batch.checkpoint batch.checkpointRetention) now = files
    have outside : k ∉ places home files := written ▸ apart _
    have prepared := prepared_captured housed files
    have base := captured_same housed files off
    have frame : ∀ {target temporary : Staged → Slot} {after : Tree},
        (captured (store.staged files) disk).Laid (slots target temporary (store.staged files)) after →
        after.node? k = disk.tree.node? k := by
      intro target temporary after laid
      refine (laid.frame k fun path member led => outside ?_).trans base
      rw [paths_slots] at member
      exact resolve_mem_places prepared.housed (.refl _) member led
    have separate : (captured (store.staged files) disk).Separate (Transaction.paths (store.staged files)) := by
      rw [← written]
      exact Store.separate housed (written ▸ prepared.grows) batch _ now
    refine meets_always.1 ((commit_meets store.attempts housed.formed.grounded separate).mono
      (fun _ _ laid => frame laid) ?_)
    -- A commit that fails staged nothing, or put the files of the batch back as far as it could.
    rintro _ _ (⟨-, same⟩ | ⟨_, _, _, -, laid⟩)
    · rw [same]
      exact base
    · exact frame laid

theorem Shelved.of_same {after : Tree} (shelved : Shelved store home tree) (housed : Housed store home after)
    (history : after.node? (historyPlace home) = tree.node? (historyPlace home))
    (held : ∀ name, after.node? (historyPlace home ++ [name]) = tree.node? (historyPlace home ++ [name])) :
    Shelved store home after where
  housed := housed
  history := by
    rw [history]
    exact shelved.history
  unlinked name is k beside target := by
    have same : after.node? k = tree.node? k := by
      rcases beside with rfl | rfl <;> exact held _
    rw [same]
    exact shelved.unlinked name is k beside target
  named name := by
    rw [held]
    exact shelved.named name

theorem commitHandoff_housed (housed : Housed store home disk.tree) (batch : Batch) (now : Time) :
    Housed store home (store.commitHandoff batch now disk).2.tree := by
  have ends := commitHandoff_meets housed batch now
  cases committed : store.commitHandoff batch now disk with
  | mk outcome after =>
  rw [committed] at ends
  cases outcome with
  | ok value =>
    obtain ⟨log, -, wrote⟩ := ends
    exact wrote.housed
  | error error =>
    rcases ends with ⟨-, prepared⟩ | ⟨_, _, _, _, -, wrote⟩
    · exact prepared.housed
    · exact wrote.housed

theorem commitHandoff_shelved (shelved : Shelved store home disk.tree) (batch : Batch) (now : Time) :
    Shelved store home (store.commitHandoff batch now disk).2.tree := by
  have off : ∀ doc : Doc, ¬historyPlace home <+: doc.dir home := by
    intro doc above
    have short := Nat.le_trans above.length_le (doc.length_dir_le home)
    simp [historyPlace] at short
  refine shelved.of_same (commitHandoff_housed shelved.housed batch now) ?_ fun name => ?_
  · exact commitHandoff_same shelved.housed batch now off fun _ => historyPlace_not_mem_places
  · have place : ScanPlace home (historyPlace home ++ [name]) := .inr ⟨name, rfl⟩
    exact commitHandoff_same shelved.housed batch now place.off fun _ => place.not_mem_places

end Waymark.Store
