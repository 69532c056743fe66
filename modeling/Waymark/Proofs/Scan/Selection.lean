import Mathlib.Data.Set.Card
import Waymark.Proofs.Analysis
import Waymark.Proofs.Scan.Entry

/-! What a scan selects and how it accounts for the rest. Every regular file of a language that is not
ignored is analysed or counted as left out for one reason, as long as the directories above it can be listed. A
directory that is not entered is counted where all those above it are entered.
-/

set_option autoImplicit false

namespace Waymark.Scan

open Finding

variable {sight : Sight} {scope : Scope} {tree : Tree} {home : Location} {root : Path} {names : List String}
  {fate : Fate} {record : FileRecord}

/-- No rule ignores the entry or a directory above it. -/
def Open (sight : Sight) (rules : IgnoreRules) (names : List String) : Prop :=
  ∀ above, above ≠ [] → above <+: names → ¬rules.Ignores (above.map sight.text)

/-- Every directory between the root and the entry can be listed. -/
def Reached (sight : Sight) (names : List String) : Prop :=
  ∀ above, above ≠ [] → above <+: names → above ≠ names → sight.opens above = true

structure Eligible (sight : Sight) (scope : Scope) (tree : Tree) (home : Location) (names : List String)
    (extension : String) (language : Language) (content : ByteArray) : Prop where
  kept : Open sight scope.rules names
  reached : Reached sight names
  file : tree.node? (home ++ names) = some (.file content)
  registered : language? sight scope names = some (extension, language)
  opened : sight.opens names = true
  small : content.size ≤ scope.maxFileSize.toNat
  text : ∀ i < sniffLength, content.data[i]? ≠ some 0

/-- A regular file of a language that is not ignored. -/
structure Candidate (sight : Sight) (scope : Scope) (tree : Tree) (home : Location) (names : List String) :
    Prop where
  kept : Open sight scope.rules names
  reached : Reached sight names
  file : (∃ content, tree.node? (home ++ names) = some (.file content)) ∨
    ∃ size, tree.node? (home ++ names) = some (.locked size)
  registered : (language? sight scope names).isSome = true

/-- An ignored directory, in which everything above it is not. -/
structure Pruned (sight : Sight) (rules : IgnoreRules) (tree : Tree) (home : Location) (names : List String) :
    Prop where
  inside : names ≠ []
  directory : tree.node? (home ++ names) = some .directory
  ignored : rules.Ignores (names.map sight.text)
  first : ∀ above, above ≠ [] → above <+: names → above ≠ names → ¬rules.Ignores (above.map sight.text)
  reached : Reached sight names

/-- A directory that is not ignored and cannot be listed. -/
structure Closed (sight : Sight) (rules : IgnoreRules) (tree : Tree) (home : Location) (names : List String) :
    Prop where
  inside : names ≠ []
  directory : tree.node? (home ++ names) = some .directory
  kept : Open sight rules names
  reached : Reached sight names
  shut : sight.opens names = false

def RecordOf (sight : Sight) (scope : Scope) (tree : Tree) (home : Location) (names : List String)
    (record : FileRecord) : Prop :=
  ∃ extension language content analysis, Eligible sight scope tree home names extension language content ∧
    Analysis.ofText language (Text.Utf8.read content) = .ok analysis ∧
    record = recordOf (sight.path names).text extension analysis

/-- What a scan is to tell of a tree. -/
structure Accounts (sight : Sight) (scope : Scope) (tree : Tree) (home : Location) (scan : Scan) : Prop where
  /-- Each file that yields a record yields one, and paths ascend except where names read alike. -/
  records : ∃ files : List (List String), files.Nodup ∧ List.Forall₂ (RecordOf sight scope tree home) files scan.records ∧
    (∀ names, names ∈ files ↔
      ∃ extension language content, Eligible sight scope tree home names extension language content) ∧
    files.Pairwise fun before after =>
      (sight.path before).text < (sight.path after).text ∨ before.map sight.text = after.map sight.text
  scanned : scan.report.filesScanned.toNat = scan.records.length
  fated : ∀ names, Candidate sight scope tree home names →
    ∃ fate, Fate.of? scope (sight.opens names) (tree.node? (home ++ names)) = some fate
  fates : ∀ fate : Fate, fate ≠ .unreadable → (fate.count scan.report).toNat =
    {names | Candidate sight scope tree home names ∧
      Fate.of? scope (sight.opens names) (tree.node? (home ++ names)) = some fate}.ncard
  /-- Directories that cannot be listed are counted with the files that cannot be read. -/
  unread : scan.report.skippedUnreadable.toNat =
    {names | Candidate sight scope tree home names ∧
      Fate.of? scope (sight.opens names) (tree.node? (home ++ names)) = some .unreadable}.ncard +
    {names | Closed sight scope.rules tree home names}.ncard
  pruned : scan.report.directoriesPruned.toNat = {names | Pruned sight scope.rules tree home names}.ncard

/-! What is seen -/

theorem areFiles_of_there (proper : tree.Proper) (there : tree.node? (home ++ names) ≠ none) :
    ∀ name ∈ names, IsFileName name := fun name among =>
  proper.isFileName there name (List.mem_append_right _ among)

theorem ignores_iff_excludes (faithful : sight.Faithful) (areFiles : ∀ name ∈ names, IsFileName name) :
    scope.rules.Ignores (names.map sight.text) ↔ scope.rules.excludes (names.map sight.text) = true :=
  IgnoreRules.ignores_iff (Sight.areFiles faithful areFiles)

/-- Of an entry that stands under names of files, the walk sees what is not below a directory that is ignored or
cannot be listed. -/
theorem seen_iff (faithful : sight.Faithful) (proper : tree.Proper) (inside : names ≠ [])
    (there : tree.node? (home ++ names) ≠ none) : Seen sight scope tree home names ↔
      (∀ above, above ≠ [] → above <+: names → above ≠ names → ¬scope.rules.Ignores (above.map sight.text)) ∧
        Reached sight names := by
  have areFiles := areFiles_of_there proper there
  have same : ∀ above, above <+: names → (scope.rules.excludes (above.map sight.text) = false ↔
      ¬scope.rules.Ignores (above.map sight.text)) := by
    intro above within
    rw [ignores_iff_excludes faithful fun name among => areFiles name (within.subset among), Bool.not_eq_true]
  constructor
  · intro seen
    exact ⟨fun above more within apart => (same above within).1 (seen.passed above more within apart).1,
      fun above more within apart => (seen.passed above more within apart).2⟩
  · rintro ⟨unignored, reached⟩
    exact ⟨inside, there, fun above more within apart =>
      ⟨(same above within).2 (unignored above more within apart), reached above more within apart⟩⟩

theorem open_iff (faithful : sight.Faithful) (proper : tree.Proper) (inside : names ≠ [])
    (there : tree.node? (home ++ names) ≠ none) : Open sight scope.rules names ∧ Reached sight names ↔
      Seen sight scope tree home names ∧ scope.rules.excludes (names.map sight.text) = false := by
  rw [seen_iff faithful proper inside there, ← Bool.not_eq_true,
    ← ignores_iff_excludes faithful (areFiles_of_there proper there)]
  constructor
  · rintro ⟨kept, reached⟩
    exact ⟨⟨fun above more within _ => kept above more within, reached⟩, kept names inside (List.prefix_refl _)⟩
  · rintro ⟨⟨unignored, reached⟩, own⟩
    refine ⟨fun above more within => ?_, reached⟩
    by_cases last : above = names
    · rw [last]
      exact own
    · exact unignored above more within last

theorem ne_nil_of_file {node : Node} (directory : tree.node? home = some .directory)
    (there : tree.node? (home ++ names) = some node) (file : node ≠ .directory) : names ≠ [] := by
  rintro rfl
  rw [List.append_nil, directory] at there
  cases there
  exact file rfl

theorem eligible_iff (faithful : sight.Faithful) (proper : tree.Proper)
    (directory : tree.node? home = some .directory) {extension : String} {language : Language}
    {content : ByteArray} : Eligible sight scope tree home names extension language content ↔
      Seen sight scope tree home names ∧ scope.rules.excludes (names.map sight.text) = false ∧
        Suits sight scope tree home names extension language content := by
  have text : looksBinary content = false ↔ ∀ i < sniffLength, content.data[i]? ≠ some 0 := by
    rw [← Bool.not_eq_true, looksBinary_iff]
    simp
  constructor
  · intro eligible
    have inside := ne_nil_of_file directory eligible.file (by simp)
    have there : tree.node? (home ++ names) ≠ none := by simp [eligible.file]
    obtain ⟨seen, kept⟩ := (open_iff faithful proper inside there).1 ⟨eligible.kept, eligible.reached⟩
    exact ⟨seen, kept, eligible.file, eligible.registered, eligible.opened, eligible.small, text.2 eligible.text⟩
  · rintro ⟨seen, kept, suits⟩
    obtain ⟨kept, reached⟩ := (open_iff faithful proper seen.inside seen.there).2 ⟨seen, kept⟩
    exact ⟨kept, reached, suits.file, suits.registered, suits.opened, suits.small, text.1 suits.text⟩

/-! Counting -/

section Counting

variable {α β : Type} {items : List α} {parts : α → List β}

theorem countP_flatMap (kind : β → Bool) (short : ∀ item ∈ items, (parts item).length ≤ 1) :
    (items.flatMap parts).countP kind = (items.filter fun item => (parts item).any kind).length := by
  induction items with
  | nil => rfl
  | cons item items ih =>
    have rest := ih fun other among => short other (List.mem_cons_of_mem _ among)
    have own : (parts item).countP kind = if (parts item).any kind then 1 else 0 := by
      have one := short item List.mem_cons_self
      cases held : parts item with
      | nil => rfl
      | cons part others =>
        rw [held, List.length_cons] at one
        obtain rfl : others = [] := List.length_eq_zero_iff.1 (by omega)
        cases told : kind part <;> simp [told]
    rw [List.flatMap_cons, List.countP_append, rest, own, List.filter_cons]
    split
    · rw [List.length_cons, Nat.add_comm]
    · rw [Nat.zero_add]

theorem length_flatMap_le (short : ∀ item ∈ items, (parts item).length ≤ 1) :
    (items.flatMap parts).length ≤ items.length := by
  have all := countP_flatMap (fun _ => true) short
  rw [List.countP_true] at all
  rw [all]
  exact List.length_filter_le _ _

theorem ncard_eq_length_filter {kept : α → Bool} {set : Set α} (distinct : items.Nodup)
    (same : ∀ item, item ∈ set ↔ item ∈ items ∧ kept item = true) : set.ncard = (items.filter kept).length := by
  classical
  have finite : set = ((items.filter kept).toFinset : Set α) := by
    ext item
    rw [same, Finset.mem_coe, List.mem_toFinset, List.mem_filter]
  rw [finite, Set.ncard_coe_finset, List.toFinset_card_of_nodup (distinct.filter _)]

end Counting

theorem length_walk_le (faithful : sight.Faithful) (proper : tree.Proper) :
    (walk sight scope tree home).length ≤ tree.items.length := by
  have distinct : ((walk sight scope tree home).map (home ++ ·)).Nodup :=
    (walk_nodup faithful proper.distinct).map fun _ _ => List.append_cancel_left
  have listed : (walk sight scope tree home).map (home ++ ·) ⊆ tree.items.map Prod.fst := by
    intro k among
    obtain ⟨names, seen, rfl⟩ := List.mem_map.1 among
    have seen := (mem_walk proper.formed).1 seen
    exact (Tree.node?_ne_none_iff (by simp [seen.inside])).1 seen.there
  have short := (distinct.subperm listed).length_le
  rwa [List.length_map, List.length_map] at short

/-! The whole scan -/

structure Told (sight : Sight) (scope : Scope) (tree : Tree) (home : Location)
    (what : List String → List Finding) : Prop where
  faithful : sight.Faithful
  proper : tree.Proper
  directory : tree.node? home = some .directory
  comes : ∀ names ∈ walk sight scope tree home, Comes sight scope tree home names (.ok (what names))

namespace Told

variable {what : List String → List Finding}

theorem comes_of_seen (told : Told sight scope tree home what) (seen : Seen sight scope tree home names) :
    Comes sight scope tree home names (.ok (what names)) :=
  told.comes names ((mem_walk told.proper.formed).2 seen)

theorem short (told : Told sight scope tree home what) :
    ∀ names ∈ walk sight scope tree home, (what names).length ≤ 1 := fun names among => (told.comes names among).short

theorem count (told : Told sight scope tree home what) {kind : Finding → Bool} {set : Set (List String)}
    (same : ∀ names, names ∈ set ↔ Seen sight scope tree home names ∧ ∃ finding ∈ what names, kind finding = true) :
    ((walk sight scope tree home).flatMap what).countP kind = set.ncard := by
  rw [countP_flatMap kind told.short]
  refine (ncard_eq_length_filter (walk_nodup told.faithful told.proper.distinct) fun names => ?_).symm
  rw [same, mem_walk told.proper.formed, List.any_eq_true]

theorem recordOf_iff (told : Told sight scope tree home what) : RecordOf sight scope tree home names record ↔
    Seen sight scope tree home names ∧ .record record ∈ what names := by
  constructor
  · rintro ⟨extension, language, content, analysis, eligible, analysed, same⟩
    obtain ⟨seen, kept, suits⟩ := (eligible_iff told.faithful told.proper told.directory).1 eligible
    exact ⟨seen, (told.comes_of_seen seen).record_iff.2
      ⟨extension, language, content, analysis, kept, suits, analysed, same⟩⟩
  · rintro ⟨seen, among⟩
    obtain ⟨extension, language, content, analysis, kept, suits, analysed, same⟩ :=
      (told.comes_of_seen seen).record_iff.1 among
    exact ⟨extension, language, content, analysis,
      (eligible_iff told.faithful told.proper told.directory).2 ⟨seen, kept, suits⟩, analysed, same⟩

theorem candidate_iff (told : Told sight scope tree home what) : (Candidate sight scope tree home names ∧
    Fate.of? scope (sight.opens names) (tree.node? (home ++ names)) = some fate) ↔
      Seen sight scope tree home names ∧ ∃ finding ∈ what names, finding.fate? = some fate := by
  constructor
  · rintro ⟨candidate, fated⟩
    have inside : names ≠ [] := by
      rcases candidate.file with ⟨content, there⟩ | ⟨size, there⟩
      · exact ne_nil_of_file told.directory there (by simp)
      · exact ne_nil_of_file told.directory there (by simp)
    have there : tree.node? (home ++ names) ≠ none := by
      rcases candidate.file with ⟨content, there⟩ | ⟨size, there⟩ <;> simp [there]
    obtain ⟨seen, kept⟩ :=
      (open_iff told.faithful told.proper inside there).1 ⟨candidate.kept, candidate.reached⟩
    exact ⟨seen, (told.comes_of_seen seen).fate_iff.2 ⟨kept, candidate.registered, fated⟩⟩
  · rintro ⟨seen, among⟩
    obtain ⟨kept, registered, fated⟩ := (told.comes_of_seen seen).fate_iff.1 among
    obtain ⟨kept, reached⟩ := (open_iff told.faithful told.proper seen.inside seen.there).2 ⟨seen, kept⟩
    exact ⟨⟨kept, reached, Fate.file_of_isSome (by rw [fated]; rfl), registered⟩, fated⟩

theorem pruned_iff (told : Told sight scope tree home what) : Pruned sight scope.rules tree home names ↔
    Seen sight scope tree home names ∧ .pruned ∈ what names := by
  constructor
  · rintro ⟨inside, directory, ignored, first, reached⟩
    have there : tree.node? (home ++ names) ≠ none := by simp [directory]
    have seen := (seen_iff told.faithful told.proper inside there).2 ⟨first, reached⟩
    have excluded := (ignores_iff_excludes told.faithful (areFiles_of_there told.proper there)).1 ignored
    exact ⟨seen, (told.comes_of_seen seen).pruned_iff.2 ⟨excluded, directory⟩⟩
  · rintro ⟨seen, among⟩
    obtain ⟨excluded, directory⟩ := (told.comes_of_seen seen).pruned_iff.1 among
    obtain ⟨first, reached⟩ := (seen_iff told.faithful told.proper seen.inside seen.there).1 seen
    have ignored := (ignores_iff_excludes told.faithful (areFiles_of_there told.proper seen.there)).2 excluded
    exact ⟨seen.inside, directory, ignored, first, reached⟩

theorem closed_iff (told : Told sight scope tree home what) : Closed sight scope.rules tree home names ↔
    Seen sight scope tree home names ∧ .closed ∈ what names := by
  constructor
  · rintro ⟨inside, directory, kept, reached, shut⟩
    have there : tree.node? (home ++ names) ≠ none := by simp [directory]
    obtain ⟨seen, kept⟩ := (open_iff told.faithful told.proper inside there).1 ⟨kept, reached⟩
    exact ⟨seen, (told.comes_of_seen seen).closed_iff.2 ⟨kept, directory, shut⟩⟩
  · rintro ⟨seen, among⟩
    obtain ⟨kept, directory, shut⟩ := (told.comes_of_seen seen).closed_iff.1 among
    obtain ⟨kept, reached⟩ := (open_iff told.faithful told.proper seen.inside seen.there).2 ⟨seen, kept⟩
    exact ⟨seen.inside, directory, kept, reached, shut⟩

end Told

end Waymark.Scan
