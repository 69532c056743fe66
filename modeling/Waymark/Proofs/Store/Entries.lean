import Mathlib.Algebra.BigOperators.Group.Finset.Basic
import Mathlib.Algebra.Order.Group.Multiset
import Waymark.Proofs.Document.Archive
import Waymark.Proofs.Store.Handoff

/-! The changelog entries that a store holds: those in the changelog and those in the archives. A handoff
moves entries from the one to the others, and an archive that stood under the name of the new one is
replaced by it.
-/

set_option autoImplicit false

namespace Waymark.Store

open OnDisk

def isArchiveName (name : String) : Bool :=
  "changelog_archive_".toList.isPrefixOf name.toList && ".json".toList.isSuffixOf name.toList

def archivePlace (home : Home) (name : String) : Location := home.room "changelog_archives" ++ [name]

def archivedAt (home : Home) (tree : Tree) (name : String) : Multiset ChangelogEntry :=
  match isArchiveName name, tree.node? (archivePlace home name) with
  | true, some (.file raw) => ChangelogArchive.entriesIn raw
  | _, _ => 0

def archiveNames (home : Home) (tree : Tree) : Finset String :=
  (tree.namesIn (home.room "changelog_archives")).toFinset

def archived (home : Home) (tree : Tree) : Multiset ChangelogEntry :=
  ∑ name ∈ archiveNames home tree, archivedAt home tree name

/-- The entries of the changelog, none where it is missing or cannot be read. -/
def recorded (store : Store) (tree : Tree) : Multiset ChangelogEntry :=
  match store.loadChangelog tree with
  | .ok (some log) => log.entries
  | _ => 0

def entries (store : Store) (home : Home) (tree : Tree) : Multiset ChangelogEntry :=
  store.recorded tree + archived home tree

variable {store : Store} {home : Home} {tree before after : Tree} {name : String} {batch : Batch}
  {log : List Char} {now : Time}

theorem mem_archiveNames (there : tree.node? (archivePlace home name) ≠ none) :
    name ∈ archiveNames home tree := by
  have inner : archivePlace home name ≠ [] := by simp [archivePlace]
  rw [Tree.node?_eq_item? _ inner] at there
  cases item : tree.item? (archivePlace home name) with
  | none => rw [item] at there; exact absurd rfl there
  | some item' =>
    have member : (archivePlace home name, item') ∈ tree.items := by
      obtain ⟨front, back, split, -⟩ := List.lookup_eq_some_iff.1 item
      rw [split]
      simp
    rw [archiveNames, List.mem_toFinset, Tree.namesIn, List.mem_mergeSort, List.mem_filterMap]
    exact ⟨_, member, by simp [archivePlace]⟩

theorem archived_eq_sum {names : Finset String} (all : archiveNames home tree ⊆ names) :
    archived home tree = ∑ name ∈ names, archivedAt home tree name := by
  refine Finset.sum_subset all fun name _ outside => ?_
  have missing : tree.node? (archivePlace home name) = none := by
    by_contra there
    exact outside (mem_archiveNames there)
  unfold archivedAt
  rw [missing]
  split
  · rename_i same
    cases same
  · rfl

theorem archivedAt_of_kept (kept : Tree.Kept before after (archivePlace home name)) :
    archivedAt home after name = archivedAt home before name := by
  unfold archivedAt
  rcases kept with same | ⟨missing, directory⟩
  · rw [same]
  · rw [missing, directory]
    cases isArchiveName name <;> rfl

theorem archived_congr (same : ∀ name, archivedAt home after name = archivedAt home before name) :
    archived home after = archived home before := by
  have all : archiveNames home after ⊆ archiveNames home after ∪ archiveNames home before :=
    Finset.subset_union_left
  have all' : archiveNames home before ⊆ archiveNames home after ∪ archiveNames home before :=
    Finset.subset_union_right
  rw [archived_eq_sum all, archived_eq_sum all']
  exact Finset.sum_congr rfl fun name _ => same name

theorem archived_replace (same : ∀ other, other ≠ name → archivedAt home after other = archivedAt home before other) :
    archived home after + archivedAt home before name = archived home before + archivedAt home after name := by
  obtain ⟨names, all, all', inside⟩ : ∃ names : Finset String, archiveNames home after ⊆ names ∧
      archiveNames home before ⊆ names ∧ name ∈ names := by
    refine ⟨insert name (archiveNames home after ∪ archiveNames home before), ?_, ?_, ?_⟩
    · exact Finset.subset_union_left.trans (Finset.subset_insert _ _)
    · exact Finset.subset_union_right.trans (Finset.subset_insert _ _)
    · exact Finset.mem_insert_self _ _
  have others : ∑ other ∈ names.erase name, archivedAt home after other =
      ∑ other ∈ names.erase name, archivedAt home before other :=
    Finset.sum_congr rfl fun other member => same other (Finset.ne_of_mem_erase member)
  rw [archived_eq_sum all, archived_eq_sum all', ← Finset.add_sum_erase _ _ inside,
    ← Finset.add_sum_erase _ (archivedAt home before) inside, others]
  ac_rfl

/-! What a handoff does to the entries -/

theorem isArchiveName_iff : isArchiveName name = true ↔
    "changelog_archive_".toList <+: name.toList ∧ ".json".toList <:+ name.toList := by
  unfold isArchiveName
  rw [Bool.and_eq_true, List.isPrefixOf_iff_prefix, List.isSuffixOf_iff_suffix]

theorem isArchiveName_archiveName (version : Option Version) (now : Time) :
    isArchiveName (archiveName version now) = true := by
  -- Stated for any texts, for the letters of these would be compared one by one.
  have affixes : ∀ front a b c back : String, front.toList <+: (front ++ a ++ b ++ c ++ back).toList ∧
      back.toList <:+ (front ++ a ++ b ++ c ++ back).toList := by
    intro front a b c back
    simp only [String.toList_append]
    constructor
    · simp only [List.append_assoc]
      exact List.prefix_append _ _
    · exact List.suffix_append _ _
  rw [isArchiveName_iff]
  exact affixes _ _ _ _ _

theorem archivePlace_ne_temporary (isArchive : isArchiveName name = true) (doc : Doc) :
    archivePlace home name ≠ doc.temporary home := by
  intro same
  have same : name = doc.name ++ ".tmp" := by
    simpa [archivePlace, Doc.temporary] using congrArg List.getLast? same
  obtain ⟨front, ends⟩ := (isArchiveName_iff.1 isArchive).2
  have last : name.toList.getLast? = some 'n' := by
    rw [← ends, List.getLast?_append]
    rfl
  rw [same, doc.getLast?_temporary] at last
  exact absurd last (by decide)

theorem archivedAt_congr (kept : isArchiveName name = true → Tree.Kept before after (archivePlace home name)) :
    archivedAt home after name = archivedAt home before name := by
  cases is : isArchiveName name with
  | true => exact archivedAt_of_kept (kept is)
  | false => rw [archivedAt, archivedAt, is]

theorem entries_of_unchanged (same : Unchanged store home before after) :
    store.entries home after = store.entries home before := by
  have read := same.reads .changelog
  simp only [Doc.path] at read
  have recording : store.recorded after = store.recorded before := by
    simp only [recorded, loadChangelog, load, readRaw, read]
  have archives : archived home after = archived home before :=
    archived_congr fun name => archivedAt_congr fun is =>
      same.kept _ (archivePlace_ne_temporary is)
  rw [entries, entries, recording, archives]

def Batch.archiveName? (batch : Batch) (now : Time) : Option String :=
  batch.archive?.map fun archive => archiveName archive.projectVersion now

/-- The entries of the archive that a batch replaces by its own. -/
def Batch.overwritten (batch : Batch) (home : Home) (tree : Tree) (now : Time) : Multiset ChangelogEntry :=
  (batch.archiveName? now).elim 0 (archivedAt home tree)

theorem place_archive (version : Option Version) (now : Time) (home : Home) :
    (Doc.archive version now).place home = archivePlace home (archiveName version now) := rfl

theorem archivePlace_ne_place {file : Doc × ByteArray} (isArchive : isArchiveName name = true)
    (member : file ∈ batch.files log now) (apart : batch.archiveName? now ≠ some name) :
    archivePlace home name ≠ file.1.place home := by
  intro same
  have same : name = file.1.name := by
    simpa [archivePlace, Doc.place] using congrArg List.getLast? same
  subst same
  unfold Batch.files at member
  simp only [List.mem_append, List.mem_cons, List.not_mem_nil, or_false, List.mem_map, Option.mem_toList] at member
  rcases member with ((rfl | rfl | rfl) | ⟨archive, written, rfl⟩) | rfl
  case inl.inr =>
    rw [Batch.archiveName?, written] at apart
    exact apart rfl
  all_goals
    dsimp only [Doc.name] at isArchive
    exact absurd isArchive (by decide)

theorem archive?_eq (batch : Batch) : batch.archived.isEmpty = true ∧ batch.archive? = none ∨
    batch.archived.isEmpty = false ∧ ∃ archive, batch.archive? = some archive ∧
      archive.projectVersion = batch.checkpoint.projectVersion ∧ archive.entries = batch.archived := by
  cases empty : batch.archived.isEmpty with
  | true => exact .inl ⟨rfl, by rw [Batch.archive?, empty, if_pos rfl]⟩
  | false =>
    refine .inr ⟨rfl, ⟨batch.checkpoint.timestamp, batch.checkpoint.projectVersion,
      Count.ofLength batch.archived, batch.archived⟩, ?_, rfl, rfl⟩
    rw [Batch.archive?, empty, if_neg (by simp)]

theorem node_of_saved {files : List (Doc × ByteArray)} {file : Doc × ByteArray}
    (saved : Saved store home files before after) (member : file ∈ files) :
    after.node? (file.1.place home) = some (.file file.2) := by
  have read := saved.written file member
  rcases saved.housed.seat_cases file.1 with seat | ⟨shut, -⟩
  · rw [saved.housed.readOptional seat] at read
    exact Tree.eq_file_of_readNode read
  · rw [shut.readOptional saved.housed.formed] at read
    cases read

theorem archiveName_congr (version : Option Version) {a b : Time} (same : a.stamp = b.stamp) :
    archiveName version a = archiveName version b := by
  unfold archiveName
  simp only [same]

theorem archivedAt_of_saved (saved : Saved store home (batch.files log now) before after)
    (apart : batch.archiveName? now ≠ some name) : archivedAt home after name = archivedAt home before name :=
  archivedAt_congr fun is => saved.kept _ (fun _ member => archivePlace_ne_place is member apart)
    (archivePlace_ne_temporary is)

theorem archiveName?_of_archived (some : batch.archived ≠ []) :
    batch.archiveName? now = .some (archiveName batch.checkpoint.projectVersion now) := by
  rcases archive?_eq batch with ⟨empty, -⟩ | ⟨-, archive, written, version, -⟩
  · exact absurd (List.isEmpty_iff.1 empty) some
  · rw [Batch.archiveName?, written, Option.map_some, version]

theorem archivedAt_own_of_saved (saved : Saved store home (batch.files log now) before after)
    (named : batch.archiveName? now = some name) : archivedAt home after name = batch.archived := by
  obtain ⟨archive, written, rfl⟩ := Option.map_eq_some_iff.1 named
  rcases archive?_eq batch with ⟨-, none⟩ | ⟨-, archive', written', -, held⟩
  · rw [none] at written
    cases written
  · rw [written] at written'
    cases written'
    have file : (Doc.archive archive.projectVersion now, archive.write.toUTF8) ∈ batch.files log now := by
      simp [Batch.files, written]
    have node := node_of_saved saved file
    rw [place_archive] at node
    rw [archivedAt, isArchiveName_archiveName, node]
    simp only
    rw [archive.entriesIn_write, held]

theorem archived_of_saved (saved : Saved store home (batch.files log now) before after) :
    archived home after + batch.overwritten home before now = archived home before + batch.archived := by
  cases named : batch.archiveName? now with
  | none =>
    have nothing : batch.archived = [] := by
      rcases archive?_eq batch with ⟨empty, -⟩ | ⟨-, archive, written, -⟩
      · exact List.isEmpty_iff.1 empty
      · rw [Batch.archiveName?, written] at named
        cases named
    rw [Batch.overwritten, named, nothing,
      archived_congr fun name => archivedAt_of_saved saved (by simp [named])]
    rfl
  | some name =>
    have others : ∀ other, other ≠ name → archivedAt home after other = archivedAt home before other := by
      intro other apart
      refine archivedAt_of_saved saved ?_
      rw [named]
      exact fun same => apart (Option.some.inj same).symm
    rw [Batch.overwritten, named, Option.elim_some, archived_replace others,
      archivedAt_own_of_saved saved named]

end Waymark.Store
