import Waymark.Proofs.Disk.Replace
import Waymark.Proofs.Path.Extension
import Waymark.Proofs.Store.Handoff
import Waymark.Proofs.Tree.Proper

/-! What saving the summary leaves of the documents. The summary is replaced or stays as it is; apart from
that files may come and go in the history, and nowhere else.
-/

set_option autoImplicit false

namespace Waymark.Store

open OnDisk

variable {store : Store} {home k : Location} {a b tree : Tree} {places : Location → Prop} {disk : Disk}
  {name : String} {version : Version} {now : Time} {summary : Summary} {doc : Doc}

def historyPlace (home : Location) : Location := home ++ ["codebase_summary", "history"]

def InHistory (home k : Location) : Prop := ∃ name, IsFileName name ∧ k = historyPlace home ++ [name]

def Doc.Beside (doc : Doc) (home : Location) : Location → Prop := Disk.Beside (doc.dir home) doc.name

def IsOutput (home k : Location) : Prop :=
  InHistory home k ∨ Doc.summary.Beside home k ∨ Doc.missingDocs.Beside home k

def SummaryOutput (home k : Location) : Prop := InHistory home k ∨ Doc.summary.Beside home k

/-- No link stands in the place of the summary. -/
structure Desk (store : Store) (home : Location) (tree : Tree) : Prop where
  formed : tree.Formed
  paths : ∃ root host, store.paths = .derive root host ∧ tree.Reaches root home
  own : ∀ k, Doc.summary.Beside home k → ∀ target, tree.node? k ≠ some (.link target)

/-- No link stands in the place of the history or of an earlier summary in it. -/
structure Chronicle (home : Location) (tree : Tree) : Prop where
  history : ∀ target, tree.node? (historyPlace home) ≠ some (.link target)
  unlinked : ∀ name, isHistoryName name = true → ∀ k, Disk.Beside (historyPlace home) name k →
    ∀ target, tree.node? k ≠ some (.link target)
  named : ∀ name, tree.node? (historyPlace home ++ [name]) ≠ none → IsFileName name

/-- No link stands in the place of the summary, of an earlier one or of the directories that those are in. -/
structure Cabinet (store : Store) (home : Location) (tree : Tree) : Prop extends
    Desk store home tree, Chronicle home tree where
  room : ∀ target, tree.node? (home ++ ["codebase_summary"]) ≠ some (.link target)

/-- What is more, the history is a directory or can be made. -/
structure Shelf (store : Store) (home : Location) (tree : Tree) : Prop extends Cabinet store home tree where
  roomFree : tree.node? (home ++ ["codebase_summary"]) = none ∨
    tree.node? (home ++ ["codebase_summary"]) = some .directory
  historyFree : tree.node? (historyPlace home) = none ∨ tree.node? (historyPlace home) = some .directory

/-- The documents are housed where the paths say, and so are the earlier summaries. -/
structure Shelved (store : Store) (home : Location) (tree : Tree) : Prop extends Chronicle home tree where
  housed : Housed store home tree

/-! Places -/

theorem Doc.Beside.isDocument (h : doc.Beside home k) : IsDocument home k := by
  rcases h with rfl | rfl
  · exact isDocument_place doc home
  · exact isDocument_temporary doc home

theorem Doc.root_le_dir (doc : Doc) (home : Location) : home <+: doc.dir home := by
  rcases doc.room_cases with root | ⟨room, -, inner⟩
  · rw [dir, root]
    exact List.prefix_refl _
  · rw [dir, inner]
    exact List.prefix_append _ _

theorem Doc.length_dir_le (doc : Doc) (home : Location) : (doc.dir home).length ≤ home.length + 1 := by
  rcases doc.room_cases with root | ⟨room, -, inner⟩
  · simp [dir, root]
  · simp [dir, inner]

theorem IsDocument.length_le (h : IsDocument home k) : k.length ≤ home.length + 2 := by
  obtain ⟨doc, name, rfl, -⟩ := h.named
  have short := doc.length_dir_le home
  rw [List.length_append, List.length_singleton]
  omega

theorem IsDocument.not_home (h : IsDocument home k) : ¬k <+: home := by
  obtain ⟨doc, name, rfl, -⟩ := h.named
  intro above
  have short := above.length_le
  have long := (doc.root_le_dir home).length_le
  rw [List.length_append, List.length_singleton] at short
  omega

theorem IsDocument.not_above_room {room : String} (h : IsDocument home k) (member : room ∈ roomNames) :
    ¬k <+: home ++ [room] := by
  intro above
  rcases List.prefix_concat_iff.1 above with whole | above
  · obtain ⟨doc, name, rfl, notRoom⟩ := h.named
    obtain rfl : name = room := by simpa using List.append_inj_right' whole rfl
    exact notRoom member
  · exact h.not_home above

theorem IsDocument.not_dir (h : IsDocument home k) (doc : Doc) : ¬k <+: doc.dir home := by
  rcases doc.room_cases with root | ⟨room, member, inner⟩
  · rw [Doc.dir, root]
    exact h.not_home
  · rw [Doc.dir, inner]
    exact h.not_above_room member

theorem SummaryOutput.isOutput (h : SummaryOutput home k) : IsOutput home k := h.imp_right .inl

theorem Shelved.cabinet (h : Shelved store home tree) : Cabinet store home tree where
  formed := h.housed.formed
  paths := by
    obtain ⟨root, host, same, reaches, -⟩ := h.housed.paths
    exact ⟨root, host, same, reaches⟩
  own k beside := h.housed.unlinked k beside.isDocument
  toChronicle := h.toChronicle
  room := h.housed.unlinked_room (by decide)

theorem IsOutput.not_above_history (h : IsOutput home k) : ¬k <+: historyPlace home := by
  intro above
  have short := above.length_le
  rcases h with ⟨name, -, rfl⟩ | document | document
  · rw [List.length_append, List.length_singleton] at short
    omega
  · rcases document with rfl | rfl <;> simp [Doc.dir, Doc.room, Doc.name, historyPlace] at above
  · rcases document with rfl | rfl <;> simp [Doc.dir, Doc.room, Doc.name, historyPlace] at above

theorem IsOutput.not_above_room {room : String} (h : IsOutput home k) (member : room ∈ roomNames) :
    ¬k <+: home ++ [room] := by
  rcases h with ⟨name, -, rfl⟩ | document | document
  · intro above
    have short := above.length_le
    simp [historyPlace] at short
  · exact document.isDocument.not_above_room member
  · exact document.isDocument.not_above_room member

theorem IsOutput.not_above_home (h : IsOutput home k) : ¬k <+: home := fun above =>
  h.not_above_history (above.trans (List.prefix_append _ _))

theorem IsOutput.isFileName (h : IsOutput home (historyPlace home ++ [name])) : IsFileName name := by
  rcases h with ⟨other, isFile, same⟩ | document | document
  · obtain rfl : name = other := by simpa using same
    exact isFile
  · rcases document with same | same <;> simp [Doc.dir, Doc.room, Doc.name, historyPlace] at same
  · rcases document with same | same <;> simp [Doc.dir, Doc.room, Doc.name, historyPlace] at same

theorem Desk.touches (h : Desk store home a) (touches : Tree.Touches (historyPlace home) places a b)
    (outputs : ∀ k, places k → SummaryOutput home k) : Desk store home b := by
  constructor
  · exact touches.formed
  · obtain ⟨root, host, same, reaches⟩ := h.paths
    exact ⟨root, host, same, touches.reaches reaches fun l above inside =>
      (outputs l inside).isOutput.not_above_home above⟩
  · intro k beside target link
    exact h.own k beside target (touches.links k target link)

theorem Chronicle.touches (h : Chronicle home a) (touches : Tree.Touches (historyPlace home) places a b)
    (outputs : ∀ k, places k → IsOutput home k) : Chronicle home b := by
  constructor
  · intro target link
    exact h.history target (touches.links _ target link)
  · intro name history k beside target link
    exact h.unlinked name history k beside target (touches.links k target link)
  · intro name there
    by_cases inside : places (historyPlace home ++ [name])
    · exact (outputs _ inside).isFileName
    · rcases touches.kept _ inside with same | ⟨above, -⟩
      · exact h.named name (same ▸ there)
      · have short := above.length_le
        rw [List.length_append, List.length_singleton] at short
        omega

theorem Cabinet.touches (h : Cabinet store home a) (touches : Tree.Touches (historyPlace home) places a b)
    (outputs : ∀ k, places k → SummaryOutput home k) : Cabinet store home b where
  toDesk := h.toDesk.touches touches outputs
  toChronicle := h.toChronicle.touches touches fun k inside => (outputs k inside).isOutput
  room target link := h.room target (touches.links _ target link)

theorem Shelf.touches (h : Shelf store home a) (touches : Tree.Touches (historyPlace home) places a b)
    (outputs : ∀ k, places k → SummaryOutput home k) : Shelf store home b where
  toCabinet := h.toCabinet.touches touches outputs
  roomFree := touches.free
    (fun inside => (outputs _ inside).isOutput.not_above_room (by decide) (List.prefix_refl _)) h.roomFree
  historyFree := touches.free
    (fun inside => (outputs _ inside).isOutput.not_above_history (List.prefix_refl _)) h.historyFree

theorem Shelved.touches (h : Shelved store home a) (touches : Tree.Touches (historyPlace home) places a b)
    (outputs : ∀ k, places k → IsOutput home k) : Shelved store home b := by
  refine ⟨h.toChronicle.touches touches outputs, ?_⟩
  apply Housed.of_unlinked
  · exact touches.formed
  · obtain ⟨root, host, same, reaches, -⟩ := h.housed.paths
    exact ⟨root, host, same, touches.reaches reaches fun l above inside =>
      (outputs l inside).not_above_home above⟩
  · intro room member target link
    exact h.housed.unlinked_room member target (touches.links _ target link)
  · intro k document target link
    exact h.housed.unlinked k document target (touches.links k target link)

theorem historyPlace_eq (home : Location) : home ++ ["codebase_summary"] ++ ["history"] = historyPlace home := by
  simp [historyPlace]

theorem Cabinet.shelf_or_stuck (h : Cabinet store home disk.tree) : Shelf store home disk.tree ∨
    ∀ name, IsFileName name → ∃ error,
      Disk.ensureParent (store.paths.historyDir.join name) disk = (.error error, disk) := by
  obtain ⟨root, host, same, reaches⟩ := h.paths
  have historyDir : store.paths.historyDir = (root.join "codebase_summary").join "history" := by rw [same]; rfl
  rw [historyDir]
  rcases Tree.free_or_barred h.room with free | barred
  · rcases Tree.free_or_barred h.history with free' | barred
    · exact .inl ⟨h, free, free'⟩
    · refine .inr fun name isFile => Disk.ensureParent_shut ?_ h.formed
      exact ⟨_, _, "history", name, rfl, reaches.join (by decide) free, by decide, isFile, historyPlace_eq home ▸ barred⟩
  · exact .inr fun name isFile =>
      Disk.ensureParent_inside reaches h.formed (by decide) (by decide) isFile barred

theorem Shelf.seat_history (h : Shelf store home tree) :
    tree.Seats store.paths.historyDir (home ++ ["codebase_summary"]) "history" := by
  obtain ⟨root, host, same, reaches⟩ := h.paths
  rw [same]
  exact ⟨_, rfl, reaches.join (by decide) h.roomFree, by decide⟩

theorem Shelf.place_history (h : Shelf store home tree) :
    tree.place? store.paths.historyDir = some (historyPlace home) := by
  rw [← historyPlace_eq]
  exact h.seat_history.place

theorem Shelf.reaches (h : Shelf store home tree) :
    tree.Reaches store.paths.historyDir (historyPlace home) := by
  obtain ⟨dir, same, reaches, isFile⟩ := h.seat_history
  have free := h.historyFree
  rw [← historyPlace_eq] at free
  rw [same, ← historyPlace_eq]
  exact reaches.join isFile free

theorem Shelf.seat (h : Shelf store home tree) (isFile : IsFileName name) :
    tree.Seats (store.paths.historyDir.join name) (historyPlace home) name :=
  ⟨_, rfl, h.reaches, isFile⟩

theorem Desk.seat_summary (h : Desk store home tree) :
    tree.Seats store.paths.summary (Doc.summary.dir home) Doc.summary.name := by
  obtain ⟨root, host, same, reaches⟩ := h.paths
  rw [same]
  exact ⟨root, rfl, reaches, Doc.isFileName .summary⟩

/-! Writing a document -/

theorem writeRaw_meets (housed : Housed store home disk.tree) (doc : Doc) (content : ByteArray) :
    Meets
      (fun _ after => Tree.Touches (doc.dir home) (doc.Beside home) disk.tree after.tree ∧
        after.tree.node? (doc.place home) = some (.file content) ∧
        after.tree.node? (doc.temporary home) = none)
      (fun error after => (∃ cause, error = .write (doc.path store) cause) ∧
        Tree.Touches (doc.dir home) (· = doc.temporary home) disk.tree after.tree)
      (store.writeRaw (doc.path store) content disk) := by
  have unlinked : ∀ k, doc.Beside home k → ∀ target, disk.tree.node? k ≠ some (.link target) :=
    fun k beside => housed.unlinked k beside.isDocument
  rcases housed.seat_cases doc with seat | ⟨shut, -⟩
  · refine Meets.adapt ((Disk.replace_meets _ content seat housed.formed unlinked).mono ?_ ?_)
    · exact fun _ _ written => written
    · exact fun error _ touches => ⟨⟨error, rfl⟩, touches⟩
  · obtain ⟨error, stopped⟩ := Disk.ensureParent_shut shut housed.formed
    have refused : store.writeRaw (doc.path store) content disk = _ := adapt_of_error (Disk.replace_of_stuck stopped)
    rw [refused]
    exact ⟨⟨error, rfl⟩, .refl _ _ housed.formed⟩

/-! The history -/

def historyName (version : Version) (now : Time) : String :=
  historyPrefix ++ version.toText ++ "_" ++ String.ofList now.stamp ++ ".json"

theorem historyPath_eq (store : Store) (version : Version) (now : Time) :
    store.historyPath version now = store.paths.historyDir.join (historyName version now) := rfl

theorem isFileName_historyName (version : Version) (now : Time) : IsFileName (historyName version now) := by
  have front : ∃ rest, (historyName version now).toList = 'c' :: 'o' :: rest := by
    unfold historyName historyPrefix
    simp only [String.toList_append, String.toList_ofList, List.append_assoc]
    exact ⟨_, rfl⟩
  obtain ⟨rest, front⟩ := front
  have part : '/' ∉ version.toText.toList := by
    rw [Version.toText, String.toList_ofList]
    exact not_slash_version version
  have plain : '/' ∉ (historyName version now).toList := by
    unfold historyName
    simp only [String.toList_append, String.toList_ofList, List.mem_append, not_or]
    exact ⟨⟨⟨⟨by decide, part⟩, by decide⟩, not_slash_stamp now⟩, by decide⟩
  exact isFileName_of_front front (by decide) plain

def HistoryOutput (home k : Location) : Prop :=
  ∃ name, IsFileName name ∧ IsOutputName name ∧ k = historyPlace home ++ [name]

theorem HistoryOutput.inHistory (h : HistoryOutput home k) : InHistory home k := by
  obtain ⟨name, isFile, -, same⟩ := h
  exact ⟨name, isFile, same⟩

theorem HistoryOutput.isOutput (h : HistoryOutput home k) : IsOutput home k := .inl h.inHistory

theorem HistoryOutput.summaryOutput (h : HistoryOutput home k) : SummaryOutput home k := .inl h.inHistory

theorem historyOutput_of_beside (isFile : IsFileName name) (output : IsOutputName name)
    (beside : Disk.Beside (historyPlace home) name k) : HistoryOutput home k := by
  rcases beside with rfl | rfl
  · exact ⟨name, isFile, output, rfl⟩
  · exact ⟨_, Path.isFileName_temporary isFile, isOutputName_temporary isFile, rfl⟩

theorem isHistoryName_historyName (version : Version) (now : Time) :
    isHistoryName (historyName version now) = true := by
  unfold isHistoryName historyName
  simp only [String.toList_append, String.toList_ofList, Bool.and_eq_true, List.isPrefixOf_iff_prefix,
    List.isSuffixOf_iff_suffix, List.append_assoc]
  exact ⟨List.prefix_append _ _, by simp only [← List.append_assoc]; exact List.suffix_append _ _⟩

theorem isOutputName_of_isHistoryName (isFile : IsFileName name) (history : isHistoryName name = true) :
    IsOutputName name := by
  rw [isHistoryName, Bool.and_eq_true, List.isPrefixOf_iff_prefix, List.isSuffixOf_iff_suffix] at history
  obtain ⟨begins, front, same⟩ := history
  have named : String.ofList front ++ ".json" = name := by
    rw [← String.toList_inj, String.toList_append, String.toList_ofList, same]
  have more : String.ofList front ≠ "" := by
    intro empty
    have length := begins.length_le
    rw [← named, empty] at length
    exact absurd length (by decide)
  have point : (".json" : String).toList = '.' :: ("json" : String).toList := rfl
  rw [← named] at isFile ⊢
  exact isOutputName_of_append isFile more point (by decide)

theorem writeHistory_touches (h : Shelf store home disk.tree) (isFile : IsFileName name)
    (history : isHistoryName name = true) (content : ByteArray) :
    Tree.Touches (historyPlace home) (HistoryOutput home) disk.tree
      (store.writeRaw (store.paths.historyDir.join name) content disk).2.tree := by
  have inside : ∀ k, Disk.Beside (historyPlace home) name k → HistoryOutput home k :=
    fun _ => historyOutput_of_beside isFile (isOutputName_of_isHistoryName isFile history)
  have ends := Disk.replace_meets store.attempts content (h.seat isFile) h.formed (h.unlinked name history)
  cases written : store.writeRaw (store.paths.historyDir.join name) content disk with
  | mk outcome after =>
  obtain ⟨first, replaced, -⟩ := adapt_cases written
  rw [replaced] at ends
  cases first with
  | ok value => exact ends.1.mono (List.prefix_refl _) inside
  | error error =>
    exact Tree.Touches.mono ends (List.prefix_refl _) fun k temporary => inside k (.inr temporary)

theorem removeAll_touches (names : List String)
    (files : ∀ name ∈ names, IsFileName name ∧ isHistoryName name = true)
    (h : Shelf store home disk.tree) : Tree.Touches (historyPlace home) (HistoryOutput home) disk.tree
      (removeAll store.paths.historyDir names disk).2.tree := by
  induction names generalizing disk with
  | nil => exact .refl _ _ h.formed
  | cons name rest ih =>
    obtain ⟨isFile, history⟩ := files name List.mem_cons_self
    have output := isOutputName_of_isHistoryName isFile history
    have removing := Disk.remove_meets (h.seat isFile) h.formed (h.unlinked name history)
    rw [removeAll]
    apply Tree.Touches.bind
    · cases removed : Disk.remove (store.paths.historyDir.join name) disk with
      | mk outcome after =>
      rw [removed] at removing
      cases outcome with
      | ok value => exact Tree.Touches.mono removing (List.prefix_refl _) fun k here => ⟨name, isFile, output, here⟩
      | error error =>
        cases removing
        exact .refl _ _ h.formed
    · intro _ after touches
      have shelved := h.touches touches fun _ => HistoryOutput.summaryOutput
      exact ih (fun name member => files name (List.mem_cons_of_mem _ member)) shelved

theorem Shelf.history_eq (h : Shelf store home tree) : store.history tree = .ok (tree.held (historyPlace home)) := by
  have text : store.paths.historyDir.text ≠ "" := by
    obtain ⟨dir, same, -, isFile⟩ := h.seat_history
    exact same ▸ Path.text_join_ne_empty dir isFile
  have missing : tree.list store.paths.historyDir = .error .notFound → tree.node? (historyPlace home) = none →
      store.history tree = .ok (tree.held (historyPlace home)) := by
    intro refused missing
    rw [Store.history, refused, Tree.held_of_missing h.formed missing]
  rcases h.historyFree with nothing | directory
  · refine missing ?_ nothing
    rcases Tree.resolve_of_place h.place_history (by simp [nothing]) with led | nowhere
    · rw [Tree.list, led]
      simp only [bind, Except.bind, nothing]
      rfl
    · rw [Tree.list, nowhere]
      rfl
  · rw [Store.history, Tree.list, h.reaches.resolve_directory h.formed directory text]
    simp only [bind, Except.bind, directory]
    rfl

theorem Shelf.isFileName_of_held (h : Shelf store home tree) {entry : String × Item}
    (listed : entry ∈ tree.held (historyPlace home)) : IsFileName entry.1 := by
  apply h.named
  rw [Tree.node?_eq_item? _ (by simp), Tree.mem_held.1 listed]
  simp

theorem Shelf.files_of_surplus (h : Shelf store home tree) (retention : Nat) :
    ∀ name ∈ surplus retention (tree.held (historyPlace home)), IsFileName name ∧ isHistoryName name = true := by
  intro name among
  obtain ⟨entry, dropped, rfl⟩ := List.mem_map.1 among
  obtain ⟨listed, history⟩ := List.mem_filter.1 (List.mem_mergeSort.1 (List.mem_of_mem_drop dropped))
  exact ⟨h.isFileName_of_held listed, history⟩

theorem pruneHistory_eq (h : Shelf store home disk.tree) : store.pruneHistory disk =
    ((removeAll store.paths.historyDir (surplus store.historyRetention (disk.tree.held (historyPlace home)))).adapt
      .io : Storing Unit) disk := by
  have asked : ask store.history disk = (.ok (disk.tree.held (historyPlace home)), disk) := by rw [ask, h.history_eq]
  rw [pruneHistory, bind_of_ok asked]

theorem pruneHistory_touches (h : Shelf store home disk.tree) :
    Tree.Touches (historyPlace home) (HistoryOutput home) disk.tree (store.pruneHistory disk).2.tree := by
  rw [pruneHistory_eq h]
  exact removeAll_touches _ (h.files_of_surplus _) h

theorem archiveSummary_touches (h : Shelf store home disk.tree) (raw : ByteArray) (version : Version)
    (now : Time) : Tree.Touches (historyPlace home) (HistoryOutput home) disk.tree
      (store.archiveSummary raw version now disk).2.tree := by
  have isFile := isFileName_historyName version now
  have history := isHistoryName_historyName version now
  unfold archiveSummary
  rw [historyPath_eq]
  generalize historyName version now = name at isFile history ⊢
  apply Tree.Touches.bind (writeHistory_touches h isFile history raw)
  intro _ after touches
  exact pruneHistory_touches (h.touches touches fun _ => HistoryOutput.summaryOutput)

theorem archiveSummary_stuck
    (stuck : ∀ name, IsFileName name → ∃ error,
      Disk.ensureParent (store.paths.historyDir.join name) disk = (.error error, disk))
    (raw : ByteArray) (version : Version) (now : Time) :
    ∃ error, store.archiveSummary raw version now disk = (.error error, disk) := by
  obtain ⟨error, stopped⟩ := stuck _ (isFileName_historyName version now)
  have refused : store.writeRaw (store.historyPath version now) raw disk = _ :=
    adapt_of_error (Disk.replace_of_stuck stopped)
  exact ⟨_, bind_of_error refused⟩

theorem Cabinet.archiveSummary_touches (h : Cabinet store home disk.tree) (raw : ByteArray) (version : Version)
    (now : Time) : Tree.Touches (historyPlace home) (HistoryOutput home) disk.tree
      (store.archiveSummary raw version now disk).2.tree := by
  rcases h.shelf_or_stuck with shelf | stuck
  · exact Store.archiveSummary_touches shelf raw version now
  · obtain ⟨error, stopped⟩ := archiveSummary_stuck stuck raw version now
    rw [stopped]
    exact .refl _ _ h.formed

theorem snapshotSummary_touches (h : Cabinet store home disk.tree) (now : Time) :
    Tree.Touches (historyPlace home) (InHistory home) disk.tree (store.snapshotSummary now disk).2.tree := by
  unfold snapshotSummary
  apply Tree.Touches.bind (.refl _ _ h.formed)
  intro raw after touches
  have shelved := h.touches touches fun _ => .inl
  cases raw with
  | none => exact .refl _ _ shelved.formed
  | some raw =>
    apply Tree.Touches.bind (.refl _ _ shelved.formed)
    intro prior after' touches'
    have shelved' := shelved.touches touches' fun _ => .inl
    have archived := shelved'.archiveSummary_touches raw prior.version now
    apply Tree.Touches.bind (archived.mono (List.prefix_refl _) fun _ => HistoryOutput.inHistory)
    intro _ _ archived
    exact .refl _ _ archived.formed

/-! The summary -/

/-- Where saving the summary leaves files even if it fails. -/
def AroundSummary (home k : Location) : Prop := InHistory home k ∨ k = Doc.summary.temporary home

inductive SummaryEnds (home : Location) (content : ByteArray) (before : Tree) :
    Except StoreError Unit → Tree → Prop where
  | saved {after : Tree} (touches : Tree.Touches (historyPlace home) (SummaryOutput home) before after)
    (placed : after.node? (Doc.summary.place home) = some (.file content)) :
    SummaryEnds home content before (.ok ()) after
  | kept {error : StoreError} {after : Tree}
    (touches : Tree.Touches (historyPlace home) (AroundSummary home) before after) :
    SummaryEnds home content before (.error error) after

theorem summary_not_above (home : Location) : ¬Doc.summary.place home <+: historyPlace home := fun above =>
  have output : IsOutput home (Doc.summary.place home) := .inr (.inl (.inl rfl))
  output.not_above_history above

theorem not_around_summary (home : Location) : ¬AroundSummary home (Doc.summary.place home) := by
  rintro (⟨name, -, same⟩ | same)
  · simp [Doc.place, Doc.dir, Doc.room, historyPlace] at same
  · exact Disk.ne_temporary _ _ same

theorem SummaryEnds.after {content : ByteArray} {outcome : Except StoreError Unit} {c : Tree}
    (touches : Tree.Touches (historyPlace home) (InHistory home) a b) (ends : SummaryEnds home content b outcome c) :
    SummaryEnds home content a outcome c := by
  cases ends with
  | saved rest placed =>
    exact .saved ((touches.mono (List.prefix_refl _) fun _ => .inl).trans rest) placed
  | kept rest =>
    exact .kept ((touches.mono (List.prefix_refl _) fun _ => .inl).trans rest)

theorem writeSummary_ends {text : String} {outcome : Except StoreError Unit} {after : Disk}
    (h : Desk store home disk.tree) (written : store.writeText store.paths.summary text disk = (outcome, after)) :
    SummaryEnds home text.toUTF8 disk.tree outcome after.tree := by
  have ends := Disk.replace_meets store.attempts text.toUTF8 h.seat_summary h.formed h.own
  have above : Doc.summary.dir home <+: historyPlace home := by
    rw [Doc.dir, historyPlace]
    simp [Doc.room]
  obtain ⟨first, replaced, rfl⟩ := adapt_cases written
  rw [replaced] at ends
  cases first with
  | ok value => exact .saved (ends.1.mono above fun _ => .inr) ends.2.1
  | error error => exact .kept (Tree.Touches.mono ends above fun _ => .inr)

/-- Another version of the summary is stored, and it can be read. -/
def Outdated (home : Location) (tree : Tree) (summary : Summary) (raw : ByteArray) (prior : Summary) : Prop :=
  tree.node? (Doc.summary.place home) = some (.file raw) ∧ Document.readSummary raw = .ok prior ∧
    prior.version ≠ summary.version

theorem Desk.readRaw_summary (h : Desk store home tree) : readRaw tree store.paths.summary =
    (Tree.readNode (tree.node? (Doc.summary.place home))).mapError fun fault => .io (.ofFault fault) := by
  rw [readRaw, h.seat_summary.readOptional h.formed (h.own _ (.inl rfl))]
  rfl

theorem Desk.file_iff_of_readRaw (h : Desk store home tree) {found : Option ByteArray}
    (read : readRaw tree store.paths.summary = .ok found) (raw : ByteArray) :
    tree.node? (Doc.summary.place home) = some (.file raw) ↔ found = some raw := by
  rw [h.readRaw_summary] at read
  cases there : tree.node? (Doc.summary.place home) with
  | none =>
    rw [there] at read
    cases read
    simp
  | some node =>
    rw [there] at read
    cases node with
    | locked _ | directory | link _ => cases read
    | file content =>
      cases read
      simp

theorem Desk.no_file_of_readRaw (h : Desk store home tree) {error : StoreError}
    (refused : readRaw tree store.paths.summary = .error error) (raw : ByteArray) :
    tree.node? (Doc.summary.place home) ≠ some (.file raw) := by
  intro there
  rw [h.readRaw_summary, there] at refused
  cases refused

theorem Desk.saveSummary_course {outcome : Except StoreError Unit} {after : Disk} (h : Desk store home disk.tree)
    (saved : store.saveSummary summary now disk = (outcome, after)) :
    (∃ error, outcome = .error error ∧ after = disk ∧ ∀ raw prior, ¬Outdated home disk.tree summary raw prior) ∨
    (∃ raw prior, Outdated home disk.tree summary raw prior ∧
      (store.archiveSummary raw prior.version now >>= fun _ =>
        store.writeText store.paths.summary summary.write) disk = (outcome, after)) ∨
    (∀ raw prior, ¬Outdated home disk.tree summary raw prior) ∧
      store.writeText store.paths.summary summary.write disk = (outcome, after) := by
  unfold saveSummary at saved
  rcases bind_cases saved with ⟨error, asked, rfl⟩ | ⟨found, between, asked, saved⟩
  · obtain rfl : disk = after := congrArg Prod.snd asked
    have refused : readRaw disk.tree store.paths.summary = .error error := congrArg Prod.fst asked
    exact .inl ⟨error, rfl, rfl, fun raw _ outdated => h.no_file_of_readRaw refused raw outdated.1⟩
  obtain rfl : disk = between := congrArg Prod.snd asked
  have read : readRaw disk.tree store.paths.summary = .ok found := congrArg Prod.fst asked
  have file := h.file_iff_of_readRaw read
  right
  cases found with
  | none =>
    refine .inr ⟨fun raw _ outdated => ?_, saved⟩
    cases (file raw).1 outdated.1
  | some raw =>
    -- Only what was read can be out of date.
    have only : ∀ raw' prior, Outdated home disk.tree summary raw' prior →
        Document.readSummary raw = .ok prior ∧ prior.version ≠ summary.version := by
      intro raw' prior outdated
      cases (file raw').1 outdated.1
      exact outdated.2
    cases decoded : Document.readSummary raw with
    | error refusal =>
      simp only [Option.map_some, decoded] at saved
      refine .inr ⟨fun raw' prior outdated => ?_, saved⟩
      cases decoded.symm.trans (only raw' prior outdated).1
    | ok prior =>
      simp only [Option.map_some, decoded] at saved
      by_cases other : prior.version ≠ summary.version
      · rw [if_pos other] at saved
        exact .inl ⟨raw, prior, ⟨(file raw).2 rfl, decoded, other⟩, saved⟩
      · rw [if_neg other] at saved
        refine .inr ⟨fun raw' prior' outdated => ?_, saved⟩
        obtain ⟨decoded', different⟩ := only raw' prior' outdated
        cases decoded.symm.trans decoded'
        exact other different

theorem saveSummary_cases {outcome : Except StoreError Unit} {after : Disk} (h : Cabinet store home disk.tree)
    (saved : store.saveSummary summary now disk = (outcome, after)) :
    (∃ error, outcome = .error error ∧
      Tree.Touches (historyPlace home) (HistoryOutput home) disk.tree after.tree) ∨
    ∃ between, Tree.Touches (historyPlace home) (HistoryOutput home) disk.tree between.tree ∧
      store.writeText store.paths.summary summary.write between = (outcome, after) := by
  have same := Tree.Touches.refl (historyPlace home) (HistoryOutput home) h.formed
  rcases h.saveSummary_course saved with ⟨error, rfl, rfl, -⟩ | ⟨raw, prior, -, saved⟩ | ⟨-, written⟩
  · exact .inl ⟨error, rfl, same⟩
  · have archived := h.archiveSummary_touches raw prior.version now
    rcases bind_cases saved with ⟨error, stopped, rfl⟩ | ⟨_, between, done, written⟩
    · rw [stopped] at archived
      exact .inl ⟨error, rfl, archived⟩
    · rw [done] at archived
      exact .inr ⟨between, archived, written⟩
  · exact .inr ⟨disk, same, written⟩

theorem saveSummary_ends {outcome : Except StoreError Unit} {after : Disk} (h : Cabinet store home disk.tree)
    (saved : store.saveSummary summary now disk = (outcome, after)) :
    SummaryEnds home summary.write.toUTF8 disk.tree outcome after.tree := by
  rcases saveSummary_cases h saved with ⟨error, rfl, archived⟩ | ⟨between, archived, written⟩
  · exact .kept (archived.mono (List.prefix_refl _) fun _ copy => .inl copy.inHistory)
  · have shelved := h.touches archived fun _ => HistoryOutput.summaryOutput
    exact .after (archived.mono (List.prefix_refl _) fun _ => HistoryOutput.inHistory)
      (writeSummary_ends shelved.toDesk written)

end Waymark.Store
