import Waymark.Proofs.Path.Spelling
import Waymark.Proofs.Tree.Operation
import Waymark.Proofs.Tree.Proper
import Waymark.Proofs.Tree.Reach

/-! Resolving absolute paths that spell a directory's location out. However they spell it, they lead there,
and without links it has one path.
-/

set_option autoImplicit false

namespace Waymark

open Waymark.Path

variable {tree : Tree} {path : Path} {location : Location} {pieces : List (List Char)} {name : String}

namespace Tree

theorem leads_of_loud (formed : tree.Formed) (areFiles : ∀ name ∈ location, IsFileName name)
    (loud : pieces.filter (!isSilent ·) = location.map String.toList)
    (directory : tree.node? location = some .directory) : tree.Leads true (pieceNames pieces) location := by
  induction pieces using List.reverseRecOn generalizing location with
  | nil =>
    obtain rfl : location = [] := by simpa using loud.symm
    exact .there rfl rfl
  | append_singleton pieces last ih =>
    rw [List.filter_append] at loud
    rw [pieceNames_append]
    -- A silent piece stays in the directory, any other one is its last name.
    by_cases silent : isSilent last = true
    · have inner := ih areFiles (by simpa [silent] using loud) directory
      simp only [isSilent, Bool.or_eq_true, beq_iff_eq] at silent
      rcases silent with rfl | rfl
      · simpa using inner
      · exact inner.silent
    · rcases List.eq_nil_or_concat location with rfl | ⟨above, name, rfl⟩
      · simp [silent] at loud
      · rw [List.concat_eq_append] at loud areFiles directory ⊢
        obtain ⟨front, ends⟩ := List.append_inj' (loud.trans List.map_append) (by simp [silent])
        obtain rfl : last = name.toList := by simpa [silent] using ends
        have isFile := areFiles name (by simp)
        have outer := ih (fun n among => areFiles n (List.mem_append_left _ among)) front
          (formed.directory_of_prefix directory (List.prefix_append _ _))
        have step : pieceNames [name.toList] = [name] := by
          rw [pieceNames_cons (toList_ne_nil isFile), pieceNames_nil, String.ofList_toList]
        rw [step]
        exact .inside outer isFile.isName (.inr directory)

end Tree

namespace Path.Spelled

theorem text_ne_empty (spelled : path.Spelled location) : path.text ≠ "" := by
  intro empty
  have absolute := spelled.absolute
  simp [isAbsolute, empty] at absolute

theorem reaches (spelled : path.Spelled location) (formed : tree.Formed)
    (directory : tree.node? location = some .directory) : tree.Reaches path location := by
  rw [Tree.Reaches, spelled.absolute]
  exact Tree.leads_of_loud formed spelled.areFiles spelled.loud directory

theorem resolve (spelled : path.Spelled location) (formed : tree.Formed)
    (directory : tree.node? location = some .directory) : tree.resolve path true = .ok location :=
  (spelled.reaches formed directory).resolve_directory formed directory spelled.text_ne_empty

end Path.Spelled

end Waymark
