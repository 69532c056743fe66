import Waymark.Proofs.Store.House

/-! What committing a handoff leaves of the documents. All of them are written to their places, and no
other document changes; after a failure none does, or each of those that were written may have.
-/

set_option autoImplicit false

namespace Waymark.Store

open OnDisk Transaction

def Batch.files (batch : Batch) (log : List Char) (now : Time) : List (Doc × ByteArray) :=
  [(.session, batch.session.write.toUTF8), (.handoff, batch.handoff.write.toUTF8),
    (.changelog, batch.changelog.write.toUTF8)] ++
  (batch.archive?.toList.map fun archive =>
    (.archive archive.projectVersion now, archive.write.toUTF8)) ++
  [(.checkpointLog, (String.ofList log).toUTF8)]

def Batch.log (batch : Batch) (log : List Char) : List Char :=
  CheckpointLog.prepend log batch.checkpoint batch.checkpointRetention

def staged (store : Store) (files : List (Doc × ByteArray)) : List Staged :=
  files.map fun file => ⟨file.1.path store, file.2⟩

def Doc.OfHandoff : Doc → Prop
  | .session | .handoff | .changelog | .checkpointLog | .archive .. => True
  | .summary | .missingDocs => False

def places (home : Home) (files : List (Doc × ByteArray)) : List Location :=
  files.flatMap fun file => [file.1.place home, file.1.temporary home]

variable {store : Store} {home : Home} {k : Location} {tree base after : Tree} {disk : Disk}
  {files : List (Doc × ByteArray)} {batch : Batch} {log : List Char} {now : Time}

theorem stagedFiles_eq (store : Store) (batch : Batch) (log : List Char) (now : Time) :
    store.stagedFiles batch log now = store.staged (batch.files log now) := by
  simp only [stagedFiles, staged, Batch.files, List.map_append, List.map_cons, List.map_nil,
    List.map_map, Function.comp_def, Doc.path]

theorem isDocument_of_mem_places (member : k ∈ places home files) : IsDocument home k := by
  obtain ⟨file, -, member⟩ := List.mem_flatMap.1 member
  simp only [List.mem_cons, List.not_mem_nil, or_false] at member
  rcases member with rfl | rfl
  · exact isDocument_place file.1 home
  · exact isDocument_temporary file.1 home

theorem ofHandoff_of_mem_files {file : Doc × ByteArray} (among : file ∈ batch.files log now) :
    file.1.OfHandoff := by
  unfold Batch.files at among
  simp only [List.mem_append, List.mem_cons, List.not_mem_nil, or_false, List.mem_map] at among
  rcases among with ((rfl | rfl | rfl) | ⟨archive, -, rfl⟩) | rfl <;> trivial

/-- The front of a name and its last character. They tell the documents of a batch apart. -/
def sign (name : String) : List Char × Option Char := (name.toList.take 18, name.toList.getLast?)

theorem sign_of_front {name : String} (front : "changelog_archive_".toList <+: name.toList) :
    sign name = ("changelog_archive_".toList, name.toList.getLast?) := by
  exact congrArg (·, name.toList.getLast?) (List.prefix_iff_eq_take.1 front).symm

theorem prefix_archiveName (version : Option Version) (now : Time) :
    "changelog_archive_".toList <+: (archiveName version now).toList := by
  unfold archiveName
  simp only [String.toList_append, List.append_assoc]
  exact List.prefix_append _ _

theorem sign_archiveName (version : Option Version) (now : Time) :
    sign (archiveName version now) = ("changelog_archive_".toList, some 'n') := by
  rw [sign_of_front (prefix_archiveName version now), getLast?_archiveName]

theorem sign_archiveName_temporary (version : Option Version) (now : Time) :
    sign (archiveName version now ++ ".tmp") = ("changelog_archive_".toList, some 'p') := by
  have front : "changelog_archive_".toList <+: (archiveName version now ++ ".tmp").toList := by
    rw [String.toList_append]
    exact (prefix_archiveName version now).trans (List.prefix_append _ _)
  rw [sign_of_front front]
  exact congrArg _ (Doc.getLast?_temporary (.archive version now))

theorem Doc.name_ne_of_handoff {doc other : Doc} (of : doc.OfHandoff) (notOf : ¬other.OfHandoff) :
    other.name ≠ doc.name := by
  intro same
  have signs := congrArg sign same
  cases other with
  | session | handoff | changelog | checkpointLog | archive => exact notOf trivial
  | summary | missingDocs =>
    cases doc with
    | summary | missingDocs => exact of
    | session | handoff | changelog | checkpointLog => exact absurd signs (by decide)
    | archive version now =>
      rw [show sign (Doc.archive version now).name = _ from sign_archiveName version now] at signs
      exact absurd signs (by decide)

theorem Doc.place_ne_of_handoff {doc other : Doc} (of : doc.OfHandoff) (notOf : ¬other.OfHandoff) :
    other.place home ≠ doc.place home := by
  intro same
  refine Doc.name_ne_of_handoff of notOf ?_
  simpa [Doc.place] using congrArg List.getLast? same

theorem nodup_places (home : Home) (batch : Batch) (log : List Char) (now : Time) :
    (places home (batch.files log now)).Nodup := by
  have signs : ((places home (batch.files log now)).map fun k => k.getLast?.map sign).Nodup := by
    unfold Batch.files
    cases batch.archive? with
    | none =>
      simp only [places, Doc.place, Doc.temporary, Doc.name, Option.toList_none, List.map_nil, List.append_nil,
        List.cons_append, List.nil_append, List.flatMap_cons, List.flatMap_nil, List.map_cons,
        List.getLast?_append, List.getLast?_singleton, Option.some_or, Option.map_some]
      decide
    | some archive =>
      simp only [places, Doc.place, Doc.temporary, Doc.name, Option.toList_some, List.map_nil, List.append_nil,
        List.cons_append, List.nil_append, List.flatMap_cons, List.flatMap_nil, List.map_cons,
        List.getLast?_append, List.getLast?_singleton, Option.some_or, Option.map_some, sign_archiveName,
        sign_archiveName_temporary]
      decide
  exact (List.pairwise_map.1 signs).imp fun differ same =>
    differ (congrArg (fun k : Location => k.getLast?.map sign) same)

/-- The paths that files are written to, with their places. -/
def aims (store : Store) (home : Home) (files : List (Doc × ByteArray)) : List (Path × Location) :=
  files.flatMap fun file =>
    [(file.1.path store, file.1.place home), ((file.1.path store).temporary, file.1.temporary home)]

theorem map_fst_aims (store : Store) (home : Home) (files : List (Doc × ByteArray)) :
    (aims store home files).map Prod.fst = Transaction.paths (store.staged files) := by
  simp [aims, Transaction.paths, staged, List.map_flatMap, List.flatMap_map]

theorem map_snd_aims (store : Store) (home : Home) (files : List (Doc × ByteArray)) :
    (aims store home files).map Prod.snd = places home files := by
  simp [aims, places, List.map_flatMap]

theorem place_of_mem_aims (housed : Housed store home tree) {aim : Path × Location}
    (member : aim ∈ aims store home files) (place : tree.place? aim.1 = some k) : k = aim.2 := by
  obtain ⟨file, -, member⟩ := List.mem_flatMap.1 member
  simp only [List.mem_cons, List.not_mem_nil, or_false] at member
  rcases member with rfl | rfl
  · exact housed.place_eq place
  · exact housed.place_temporary_eq place

theorem resolve_mem_places (housed : Housed store home tree) (grows : tree.Grows base) {path : Path}
    (member : path ∈ Transaction.paths (store.staged files)) (led : base.resolve path false = .ok k) :
    k ∈ places home files := by
  rw [← map_fst_aims store home] at member
  obtain ⟨aim, among, rfl⟩ := List.mem_map.1 member
  have same := place_of_mem_aims housed among (grows.place? led)
  rw [same, ← map_snd_aims store]
  exact List.mem_map_of_mem among

theorem separate (housed : Housed store home tree) (grows : tree.Grows base) (batch : Batch)
    (log : List Char) (now : Time) :
    base.Separate (Transaction.paths (store.staged (batch.files log now))) where
  unlinked path member k led target link :=
    housed.unlinked k (isDocument_of_mem_places (resolve_mem_places housed grows member led)) target
      (grows.kept link (by simp))
  apart := by
    have distinct := nodup_places home batch log now
    rw [← map_snd_aims store] at distinct
    rw [← map_fst_aims store home]
    refine List.pairwise_map.2 ((List.pairwise_map.1 distinct).imp_of_mem fun here there differ k led led' => ?_)
    exact differ ((place_of_mem_aims housed here (grows.place? led)).symm.trans
      (place_of_mem_aims housed there (grows.place? led')))

/-- The tree before the first file is written: nothing has changed but that directories were made, and
none of them where a document stands. -/
structure Prepared (store : Store) (home : Home) (before base : Tree) : Prop where
  grows : before.Grows base
  housed : Housed store home base
  same : ∀ k, IsDocument home k → base.node? k = before.node? k

theorem grows_ensureParent (path : Path) (disk : Disk) :
    disk.tree.Grows (Disk.ensureParent path disk).2.tree :=
  meets_always.1 ((Disk.ensureParent_meets path disk).mono (fun _ _ made => made.1) fun _ _ grows => grows)

theorem Housed.ensureParent_same (h : Housed store home disk.tree) {doc : Doc} (off : ¬k <+: doc.dir home) :
    (Disk.ensureParent (doc.path store) disk).2.tree.node? k = disk.tree.node? k := by
  rcases h.seat_cases doc with seat | ⟨shut, -⟩
  · exact ((Disk.ensureParent_within seat h.formed).same k).resolve_right off
  · obtain ⟨error, stopped⟩ := Disk.ensureParent_shut shut h.formed
    rw [stopped]

theorem Housed.ensureParent (h : Housed store home disk.tree) (doc : Doc) :
    Housed store home (Disk.ensureParent (doc.path store) disk).2.tree :=
  h.grows (grows_ensureParent _ disk) (h.formed.ensureParent _)

theorem prepared_ensureParent {before : Tree} (h : Prepared store home before disk.tree) (doc : Doc) :
    Prepared store home before (Disk.ensureParent (doc.path store) disk).2.tree := by
  have grows := grows_ensureParent (doc.path store) disk
  refine ⟨h.grows.trans grows, h.housed.ensureParent doc, fun k document => ?_⟩
  rcases grows.look k with same | ⟨missing, -⟩
  · exact same.trans (h.same k document)
  · have kept := h.housed.ensureParent_same (h.housed.not_above_dir document missing doc)
    exact kept.trans (h.same k document)

theorem prepared_captured (housed : Housed store home disk.tree) (files : List (Doc × ByteArray)) :
    Prepared store home disk.tree (captured (store.staged files) disk) := by
  refine captured_keeps (fun file member disk h => ?_) ⟨.refl _, housed, fun _ _ => rfl⟩
  obtain ⟨file, -, rfl⟩ := List.mem_map.1 member
  exact prepared_ensureParent h file.1

/-! How a handoff ends -/

/-- What is left in the places of the documents after files were written over a prepared tree. -/
def Wrote (store : Store) (home : Home) (files : List (Doc × ByteArray))
    (target temporary : Staged → Slot) (before after : Tree) : Prop :=
  ∃ base, Prepared store home before base ∧
    base.Laid (slots target temporary (store.staged files)) after

theorem Wrote.housed {target temporary : Staged → Slot} {before : Tree}
    (h : Wrote store home files target temporary before after) : Housed store home after := by
  obtain ⟨base, prepared, laid⟩ := h
  refine prepared.housed.laid laid fun path member k led => ?_
  rw [paths_slots] at member
  exact isDocument_of_mem_places (resolve_mem_places prepared.housed (.refl base) member led)

theorem Wrote.kept {target temporary : Staged → Slot} {before : Tree}
    (h : Wrote store home files target temporary before after) (outside : k ∉ places home files) :
    Tree.Kept before after k := by
  obtain ⟨base, prepared, laid⟩ := h
  refine prepared.grows.kept_of_same (laid.frame k fun path member led => outside ?_)
  rw [paths_slots] at member
  exact resolve_mem_places prepared.housed (.refl base) member led

theorem Wrote.same {target temporary : Staged → Slot} {before : Tree}
    (h : Wrote store home files target temporary before after) (document : IsDocument home k)
    (outside : k ∉ places home files) : after.node? k = before.node? k := by
  obtain ⟨base, prepared, laid⟩ := h
  rw [← prepared.same k document]
  refine laid.frame k fun path member led => outside ?_
  rw [paths_slots] at member
  exact resolve_mem_places prepared.housed (.refl base) member led

variable {before : Tree} {target temporary : Staged → Slot}

theorem mem_slots_staged {slot : Path × Slot} : slot ∈ slots target temporary (store.staged files) ↔
    ∃ file ∈ files, slot = (file.1.path store, target ⟨file.1.path store, file.2⟩) ∨
      slot = ((file.1.path store).temporary, temporary ⟨file.1.path store, file.2⟩) := by
  rw [mem_slots]
  constructor
  · rintro ⟨_, member, is⟩
    obtain ⟨file, inside, rfl⟩ := List.mem_map.1 member
    exact ⟨file, inside, is⟩
  · rintro ⟨file, member, is⟩
    exact ⟨_, List.mem_map_of_mem member, is⟩

theorem Wrote.holds (h : Wrote store home files content temporary before after)
    {file : Doc × ByteArray} (member : file ∈ files) :
    after.node? (file.1.place home) = some (.file file.2) := by
  obtain ⟨base, prepared, laid⟩ := h
  obtain ⟨k, led, there⟩ := laid.is _ (mem_slots_staged.2 ⟨file, member, .inl rfl⟩)
  rwa [prepared.housed.place_eq ((Tree.Grows.refl base).place? led)] at there

theorem Wrote.undone (h : Wrote store home files (rolledBack true) (leftOver true) before after)
    (document : IsDocument home k) : after.node? k = before.node? k ∨
      after.node? k = none ∧ ∃ file ∈ files, k = file.1.temporary home := by
  obtain ⟨base, prepared, laid⟩ := h
  rw [← prepared.same k document]
  by_cases led : ∃ path ∈ (slots (rolledBack true) (leftOver true) (store.staged files)).map Prod.fst,
      base.resolve path false = .ok k
  · obtain ⟨path, member, led⟩ := led
    obtain ⟨slot, among, rfl⟩ := List.mem_map.1 member
    have is := laid.is slot among
    have place := (Tree.Grows.refl base).place? led
    obtain ⟨file, inside, rfl | rfl⟩ := mem_slots_staged.1 among
    · exact .inl (is k led)
    · exact (is _ led).symm.imp_right fun missing => ⟨missing, file, inside, prepared.housed.place_temporary_eq place⟩
  · exact .inl (laid.frame k fun path member leads => led ⟨path, member, leads⟩)

theorem Doc.place_ne_temporary (doc other : Doc) (home : Home) :
    doc.place home ≠ other.temporary home := by
  intro same
  have same : doc.name = other.name ++ ".tmp" := by
    simpa [Doc.place, Doc.temporary] using congrArg List.getLast? same
  have last := doc.getLast?_name
  rw [same, other.getLast?_temporary] at last
  exact absurd last (by decide)

/-- No document has changed: each stands and reads as before, and apart from temporary files nothing
but directories came or went. -/
structure Unchanged (store : Store) (home : Home) (before after : Tree) : Prop where
  housed : Housed store home after
  documents : ∀ doc : Doc, after.node? (doc.place home) = before.node? (doc.place home)
  reads : ∀ doc : Doc, after.readOptional (doc.path store) = before.readOptional (doc.path store)
  kept : ∀ k, (∀ doc : Doc, k ≠ doc.temporary home) → Tree.Kept before after k

theorem unchanged_of_documents (housed : Housed store home before) (housed' : Housed store home after)
    (documents : ∀ doc : Doc, after.node? (doc.place home) = before.node? (doc.place home))
    (kept : ∀ k, (∀ doc : Doc, k ≠ doc.temporary home) → Tree.Kept before after k) :
    Unchanged store home before after where
  housed := housed'
  documents := documents
  reads doc := housed.readOptional_congr housed' (fun _ member => kept _ fun other same =>
    (isDocument_temporary other home).ne_room member same.symm) (documents doc)
  kept := kept

theorem Unchanged.refl (housed : Housed store home tree) : Unchanged store home tree tree :=
  unchanged_of_documents housed housed (fun _ => rfl) fun _ _ => .inl rfl

theorem Unchanged.trans {a b c : Tree} (first : Unchanged store home a b)
    (second : Unchanged store home b c) : Unchanged store home a c where
  housed := second.housed
  documents doc := (second.documents doc).trans (first.documents doc)
  reads doc := (second.reads doc).trans (first.reads doc)
  kept k outside := (first.kept k outside).trans (second.kept k outside)

theorem Prepared.unchanged (housed : Housed store home before)
    (h : Prepared store home before after) : Unchanged store home before after :=
  unchanged_of_documents housed h.housed (fun doc => h.same _ (isDocument_place doc home))
    fun k _ => h.grows.look k

theorem Wrote.unchanged (housed : Housed store home before)
    (h : Wrote store home files (rolledBack true) (leftOver true) before after) :
    Unchanged store home before after := by
  refine unchanged_of_documents housed h.housed (fun doc => ?_) fun k outside => ?_
  · rcases h.undone (isDocument_place doc home) with same | ⟨-, file, -, temporary⟩
    · exact same
    · exact absurd temporary (doc.place_ne_temporary file.1 home)
  · by_cases document : IsDocument home k
    · rcases h.undone document with same | ⟨-, file, -, temporary⟩
      · exact .inl same
      · exact absurd temporary (outside file.1)
    · exact h.kept fun among => document (isDocument_of_mem_places among)

/-- The files were written and nothing else has changed: every other document reads as before, and
apart from temporary files nothing but directories came or went. -/
structure Saved (store : Store) (home : Home) (files : List (Doc × ByteArray)) (before after : Tree) :
    Prop where
  housed : Housed store home after
  written : ∀ file ∈ files, after.readOptional (file.1.path store) = .ok (some file.2)
  others : ∀ doc : Doc, (∀ file ∈ files, doc.place home ≠ file.1.place home) →
    after.readOptional (doc.path store) = before.readOptional (doc.path store)
  kept : ∀ k, (∀ file ∈ files, k ≠ file.1.place home) → (∀ doc : Doc, k ≠ doc.temporary home) →
    Tree.Kept before after k

theorem not_mem_places (apart : ∀ file ∈ files, k ≠ file.1.place home)
    (lasting : ∀ doc : Doc, k ≠ doc.temporary home) : k ∉ places home files := by
  intro among
  obtain ⟨file, member, among⟩ := List.mem_flatMap.1 among
  rcases List.mem_cons.1 among with same | among
  · exact apart file member same
  · exact lasting file.1 (List.mem_singleton.1 among)

theorem Wrote.saved {temporary : Staged → Slot} (housed : Housed store home before)
    (h : Wrote store home files content temporary before after) : Saved store home files before after where
  housed := h.housed
  written file member := by
    have there := h.holds member
    rw [h.housed.readOptional (h.housed.seat_of_there _ (by simp [there])), there]
    rfl
  others doc apart := by
    have outside := not_mem_places apart fun other => doc.place_ne_temporary other home
    refine housed.readOptional_congr h.housed (fun room member => h.kept fun among => ?_)
      (h.same (isDocument_place doc home) outside)
    exact (isDocument_of_mem_places among).ne_room member rfl
  kept k apart lasting := h.kept (not_mem_places apart lasting)

theorem Saved.of_unchanged (same : Unchanged store home before base)
    (h : Saved store home files base after) : Saved store home files before after where
  housed := h.housed
  written := h.written
  others doc apart := (h.others doc apart).trans (same.reads doc)
  kept k apart lasting := (same.kept k lasting).trans (h.kept k apart lasting)

theorem loadCheckpointLog_error {error : StoreError}
    (h : store.loadCheckpointLog tree = .error error) : ∃ cause, error = .io cause := by
  unfold loadCheckpointLog readRaw at h
  cases read : tree.readOptional store.paths.checkpointLog with
  | error fault =>
    rw [read] at h
    cases h
    exact ⟨_, rfl⟩
  | ok raw =>
    rw [read] at h
    cases h

/-- How committing a handoff ends. The log is read first; then all documents are written, or none is,
or some of those that were written could not be put back. -/
theorem commitHandoff_meets (housed : Housed store home disk.tree) (batch : Batch) (now : Time) :
    Meets
      (fun _ after => ∃ log, store.loadCheckpointLog disk.tree = .ok log ∧
        Wrote store home (batch.files (batch.log log) now) content (fun _ => .gone) disk.tree after.tree)
      (fun error after => (∃ cause, error = .io cause) ∧ Prepared store home disk.tree after.tree ∨
        ∃ path cause restored log, error = .transaction path cause restored ∧
          Wrote store home (batch.files (batch.log log) now) (rolledBack restored) (leftOver restored)
            disk.tree after.tree)
      (store.commitHandoff batch now disk) := by
  unfold commitHandoff
  -- The log is read before anything is written.
  cases read : store.loadCheckpointLog disk.tree with
  | error error =>
    have asked : ask store.loadCheckpointLog disk = (.error error, disk) := by rw [ask, read]
    rw [bind_of_error asked]
    exact .inl ⟨loadCheckpointLog_error read, .refl _, housed, fun _ _ => rfl⟩
  | ok log =>
    have asked : ask store.loadCheckpointLog disk = (.ok log, disk) := by rw [ask, read]
    rw [bind_of_ok asked]
    simp only [stagedFiles_eq]
    have prepared := prepared_captured housed (batch.files (batch.log log) now)
    refine (commit_meets store.attempts housed.formed.grounded
      (separate housed prepared.grows batch (batch.log log) now)).mono (fun _ after laid => ?_) ?_
    · exact ⟨log, rfl, _, prepared, laid⟩
    · rintro error after (⟨io, same⟩ | ⟨path, cause, restored, rfl, laid⟩)
      · exact .inl ⟨io, same ▸ prepared⟩
      · exact .inr ⟨path, cause, restored, log, rfl, _, prepared, laid⟩

theorem commitHandoff_unstaged (store : Store) (batch : Batch) (now : Time) (disk : Disk) :
    Meets (fun _ _ => True) (fun error after => Staging error ∨ disk.tree.Grows after.tree)
      (store.commitHandoff batch now disk) := by
  unfold commitHandoff
  cases read : store.loadCheckpointLog disk.tree with
  | error error =>
    have asked : ask store.loadCheckpointLog disk = (.error error, disk) := by rw [ask, read]
    rw [bind_of_error asked]
    exact .inr (.refl disk.tree)
  | ok log =>
    have asked : ask store.loadCheckpointLog disk = (.ok log, disk) := by rw [ask, read]
    rw [bind_of_ok asked]
    exact commit_unstaged _ _

end Waymark.Store
