import Waymark.Proofs.Path.Steps
import Waymark.Proofs.Tree.Formed

/-! Trees as a disk has them: every node stands in a directory, under a name that files can have, and is
listed once. The names in a directory are those under which something stands there, in ascending order.
-/

set_option autoImplicit false

namespace Waymark

section Sorting

variable {α κ : Type} [LE κ] [DecidableLE κ] [Std.IsLinearOrder κ]

theorem sorted_mergeSort (key : α → κ) (items : List α) :
    (items.mergeSort fun a b => decide (key a ≤ key b)).Pairwise fun a b => key a ≤ key b := by
  have sorted : (items.mergeSort fun a b => decide (key a ≤ key b)).Pairwise
      fun a b => decide (key a ≤ key b) = true := by
    apply List.pairwise_mergeSort
    · intro a b c first second
      exact decide_eq_true (Std.le_trans (of_decide_eq_true first) (of_decide_eq_true second))
    · intro a b
      rw [Bool.or_eq_true, decide_eq_true_iff, decide_eq_true_iff]
      exact Std.le_total
  exact sorted.imp of_decide_eq_true

theorem ascending_mergeSort [LT κ] [Std.LawfulOrderLT κ] (key : α → κ) {items : List α} (distinct : (items.map key).Nodup) :
    (items.mergeSort fun a b => decide (key a ≤ key b)).Pairwise fun a b => key a < key b := by
  have apart : (items.mergeSort fun a b => decide (key a ≤ key b)).Pairwise fun a b => key a ≠ key b :=
    List.pairwise_map.1 (((List.mergeSort_perm items _).map key).nodup_iff.2 distinct)
  exact ((sorted_mergeSort key items).and apart).imp fun both => Std.lt_of_le_of_ne both.1 both.2

end Sorting

namespace Tree

structure Proper (tree : Tree) : Prop where
  formed : tree.Formed
  distinct : (tree.items.map Prod.fst).Nodup
  named : ∀ k name, tree.node? (k ++ [name]) ≠ none → IsFileName name

variable {tree : Tree} {k l : Location} {name : String}

theorem node?_ne_none_iff (inside : k ≠ []) : tree.node? k ≠ none ↔ k ∈ tree.items.map Prod.fst := by
  rw [node?_eq_item? tree inside, ne_eq, Option.map_eq_none_iff, item?, List.lookup_eq_none_iff, List.mem_map]
  constructor
  · intro listed
    apply Classical.byContradiction
    intro missing
    refine listed fun entry among => bne_iff_ne.2 fun same => missing ⟨entry, among, same.symm⟩
  · rintro ⟨entry, among, rfl⟩ missing
    exact bne_iff_ne.1 (missing entry among) rfl

theorem unlinked_of_items (unlinked : ∀ entry ∈ tree.items, ∀ target, entry.2.node ≠ .link target) (k : Location)
    (target : Path) : tree.node? k ≠ some (.link target) := by
  by_cases inside : k = []
  · subst inside
    simp
  intro there
  rw [node?_eq_item? tree inside, Option.map_eq_some_iff] at there
  obtain ⟨item, held, link⟩ := there
  obtain ⟨before, behind, split, -⟩ := List.lookup_eq_some_iff.1 held
  exact unlinked (k, item) (by rw [split]; simp) target link

theorem eq_concat_iff : k = l ++ [name] ↔ k.dropLast = l ∧ k.getLast? = some name := by
  constructor
  · rintro rfl
    exact ⟨List.dropLast_concat, List.getLast?_concat⟩
  · rintro ⟨rfl, last⟩
    obtain ⟨front, rfl⟩ := List.getLast?_eq_some_iff.1 last
    rw [List.dropLast_concat]

theorem mem_namesIn : name ∈ tree.namesIn l ↔ tree.node? (l ++ [name]) ≠ none := by
  rw [namesIn, List.mem_mergeSort, List.mem_filterMap, node?_ne_none_iff (by simp), List.mem_map]
  constructor
  · rintro ⟨entry, among, found⟩
    split at found
    · rename_i above
      exact ⟨entry, among, eq_concat_iff.2 ⟨above, found⟩⟩
    · cases found
  · rintro ⟨entry, among, same⟩
    obtain ⟨above, last⟩ := eq_concat_iff.1 same
    exact ⟨entry, among, (if_pos above).trans last⟩

theorem ascending_namesIn (distinct : (tree.items.map Prod.fst).Nodup) (l : Location) :
    (tree.namesIn l).Pairwise (· < ·) := by
  refine ascending_mergeSort id ?_
  rw [List.map_id]
  have apart : tree.items.Pairwise fun a b => a.1 ≠ b.1 := List.pairwise_map.1 distinct
  refine apart.filterMap _ fun a b differs n first m second same => differs ?_
  split at first
  · rename_i above
    split at second
    · rename_i above'
      rw [eq_concat_iff.2 ⟨above, first⟩, eq_concat_iff.2 ⟨above', second⟩, same]
    · cases second
  · cases first

def held (tree : Tree) (l : Location) : List (String × Item) :=
  (tree.namesIn l).filterMap fun name => (tree.item? (l ++ [name])).map (name, ·)

theorem mem_held {entry : String × Item} : entry ∈ tree.held l ↔ tree.item? (l ++ [entry.1]) = some entry.2 := by
  rw [held, List.mem_filterMap]
  constructor
  · rintro ⟨name, -, found⟩
    obtain ⟨item, there, rfl⟩ := Option.map_eq_some_iff.1 found
    exact there
  · intro there
    refine ⟨entry.1, mem_namesIn.2 ?_, by rw [there]; rfl⟩
    rw [node?_eq_item? tree (by simp), there]
    simp

theorem nodup_held (distinct : (tree.items.map Prod.fst).Nodup) (l : Location) :
    ((tree.held l).map Prod.fst).Nodup := by
  refine List.pairwise_map.2 ((ascending_namesIn distinct l).filterMap _ fun a b less x first y second same => ?_)
  obtain ⟨_, -, rfl⟩ := Option.map_eq_some_iff.1 first
  obtain ⟨_, -, rfl⟩ := Option.map_eq_some_iff.1 second
  have same : a = b := same
  exact String.lt_irrefl _ (same ▸ less)

theorem held_of_missing (formed : tree.Formed) (missing : tree.node? l = none) : tree.held l = [] := by
  have empty : tree.namesIn l = [] := List.eq_nil_iff_forall_not_mem.2 fun name among => by
    have directory := formed.inside l name (mem_namesIn.1 among)
    rw [missing] at directory
    cases directory
  rw [held, empty]
  rfl

namespace Proper

theorem of_items (grounded : tree.node? tree.workingDir = some .directory)
    (distinct : (tree.items.map Prod.fst).Nodup)
    (inside : ∀ k ∈ tree.items.map Prod.fst, tree.node? k.dropLast = some .directory)
    (named : ∀ k ∈ tree.items.map Prod.fst, ∀ name ∈ k.getLast?, IsFileName name) : tree.Proper := by
  have listed : ∀ k name, tree.node? (k ++ [name]) ≠ none → k ++ [name] ∈ tree.items.map Prod.fst :=
    fun k name => (node?_ne_none_iff (by simp)).1
  refine ⟨⟨grounded, fun k name there => ?_⟩, distinct, fun k name there => ?_⟩
  · have above := inside _ (listed k name there)
    rwa [List.dropLast_concat] at above
  · exact named _ (listed k name there) name List.getLast?_concat

theorem isFileName (proper : tree.Proper) (there : tree.node? k ≠ none) : ∀ name ∈ k, IsFileName name := by
  intro name among
  obtain ⟨before, after, same⟩ := List.append_of_mem among
  apply proper.named before name
  have split : before ++ [name] ++ after = k := by rw [same, List.append_assoc, List.singleton_append]
  by_cases last : after = []
  · rw [last, List.append_nil] at split
    rwa [split]
  · have directory : tree.node? k.dropLast = some .directory := proper.formed.above there
    have above : before ++ [name] <+: k.dropLast := by
      rw [← split, List.dropLast_append_of_ne_nil last]
      exact List.prefix_append _ _
    rw [proper.formed.directory_of_prefix directory above]
    exact Option.some_ne_none _

end Proper

end Tree

end Waymark
