import Mathlib.Data.List.Sort
import Mathlib.Data.String.Basic
import Waymark.Proofs.Path.Relative
import Waymark.Proofs.Text.Utf8
import Waymark.Proofs.Tree.Proper
import Waymark.Scan.Sight

/-! What a walk can tell apart. Different names have different bytes and stand in the order of these, but names
whose bytes are no texts may read alike, and paths are made of what is read.
-/

set_option autoImplicit false

namespace Waymark

/-- The names in a directory, sorted by a function that can be evaluated in the logic. -/
theorem Tree.namesIn_eq_insertionSort (tree : Tree) (location : Location) : tree.namesIn location =
    (tree.items.filterMap fun entry => if entry.1.dropLast = location then entry.1.getLast? else none).insertionSort
      (· ≤ ·) := List.mergeSort_eq_insertionSort (· ≤ ·) _

namespace Sight

variable {sight : Sight} {tree : Tree} {location : Location} {names : List String} {name : String}

/-- Every name has bytes of its own, and what is read of them could be a name as well. -/
structure Faithful (sight : Sight) : Prop where
  apart : ∀ name other, sight.bytes name = sight.bytes other → name = other
  readable : ∀ name, IsFileName name → IsFileName (sight.text name)

theorem Faithful.of_bytes {other : Sight} (faithful : sight.Faithful) (bytes : sight.bytes = other.bytes) :
    other.Faithful := by
  obtain ⟨_, _⟩ := sight
  obtain ⟨_, _⟩ := other
  subst bytes
  exact ⟨faithful.apart, faithful.readable⟩

def key (sight : Sight) (name : String) : List UInt8 := (sight.bytes name).data.toList

theorem Faithful.key_inj (faithful : sight.Faithful) {other : String} (same : sight.key name = sight.key other) :
    name = other :=
  faithful.apart name other (ByteArray.ext (Array.toList_inj.1 same))

def path (sight : Sight) (names : List String) : Path := Path.relative (names.map sight.text)

theorem mem_namesIn : name ∈ sight.namesIn tree location ↔ tree.node? (location ++ [name]) ≠ none := by
  rw [namesIn, List.mem_mergeSort, Tree.mem_namesIn]

theorem ascending_namesIn (faithful : sight.Faithful) (distinct : (tree.items.map Prod.fst).Nodup)
    (location : Location) :
    (sight.namesIn tree location).Pairwise fun name other => sight.key name < sight.key other := by
  refine ascending_mergeSort sight.key (List.pairwise_map.2 ?_)
  exact (Tree.ascending_namesIn distinct location).imp fun before same =>
    String.ne_of_lt before (faithful.key_inj same)

theorem namesIn_eq_insertionSort (faithful : sight.Faithful) (tree : Tree) (location : Location) :
    sight.namesIn tree location = (tree.namesIn location).insertionSort fun a b => sight.key a ≤ sight.key b := by
  have total : Std.Total fun a b => sight.key a ≤ sight.key b := ⟨fun _ _ => Std.le_total⟩
  have trans : IsTrans String fun a b => sight.key a ≤ sight.key b := ⟨fun _ _ _ => Std.le_trans⟩
  have antisymm : Std.Antisymm fun a b => sight.key a ≤ sight.key b :=
    ⟨fun _ _ before after => faithful.key_inj (Std.le_antisymm before after)⟩
  exact List.mergeSort_eq_insertionSort (fun a b => sight.key a ≤ sight.key b) _

theorem areFiles (faithful : sight.Faithful) (areFiles : ∀ name ∈ names, IsFileName name) :
    ∀ name ∈ names.map sight.text, IsFileName name := by
  intro text among
  obtain ⟨name, listed, rfl⟩ := List.mem_map.1 among
  exact faithful.readable name (areFiles name listed)

/-! Names that are texts -/

theorem text_of_bytes (plain : sight.bytes name = name.toUTF8) : sight.text name = name := by
  rw [text, plain, Text.Utf8.read_toUTF8, String.ofList_toList]

theorem faithful_of_toUTF8 (opens : List String → Bool) : (Sight.mk String.toUTF8 opens).Faithful where
  apart name other same := String.toByteArray_inj.1 same
  readable name isFile := by rwa [text_of_bytes rfl]

theorem faithful_clear : Sight.clear.Faithful := faithful_of_toUTF8 _

theorem map_text_clear (names : List String) : names.map Sight.clear.text = names := by
  have same : Sight.clear.text = id := funext fun _ => text_of_bytes rfl
  rw [same, List.map_id]

end Sight

end Waymark
