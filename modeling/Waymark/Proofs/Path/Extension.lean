import Waymark.Proofs.Path.Steps

/-! Extensions of names, and those of all that the tool writes. -/

set_option autoImplicit false

namespace Waymark

variable {name : String}

namespace Path

theorem fileName?_name (isFile : IsFileName name) : fileName? ⟨name⟩ = some name := by
  have alone : join ⟨""⟩ name = ⟨name⟩ := by
    have relative : name.toList.head? ≠ some '/' := fun head => isFile.plain (List.mem_of_mem_head? head)
    rw [join, if_neg relative]
    simp
  rw [← alone]
  exact fileName?_join _ isFile

theorem extension?_name {front ending : List Char} (isFile : IsFileName name)
    (ends : name.toList = front ++ '.' :: ending) (more : front ≠ []) (plain : '.' ∉ ending) :
    extension? ⟨name⟩ = some (String.ofList ending) := by
  have before : ∀ c ∈ ending.reverse, (c != '.') = true := by
    intro c among
    exact bne_iff_ne.2 fun same => plain (same ▸ List.mem_reverse.1 among)
  have reversed : name.toList.reverse = ending.reverse ++ '.' :: front.reverse := by
    rw [ends]
    simp
  rw [extension?, fileName?_name isFile, Option.bind_some]
  dsimp only
  rw [reversed, List.dropWhile_append_of_pos before, List.takeWhile_append_of_pos before]
  obtain ⟨last, rest, same⟩ := List.exists_cons_of_ne_nil (List.reverse_ne_nil_iff.2 more)
  rw [same]
  simp

end Path

def outputExtensions : List String := ["json", "md", "tmp"]

def IsOutputName (name : String) : Prop := ∃ ending ∈ outputExtensions, Path.extension? ⟨name⟩ = some ending

instance (name : String) : Decidable (IsOutputName name) :=
  inferInstanceAs (Decidable (∃ ending ∈ outputExtensions, Path.extension? ⟨name⟩ = some ending))

theorem isOutputName_of_append {front dotted ending : String} (isFile : IsFileName (front ++ dotted))
    (more : front ≠ "") (point : dotted.toList = '.' :: ending.toList) (among : ending ∈ outputExtensions) :
    IsOutputName (front ++ dotted) := by
  have plain : ∀ ending ∈ outputExtensions, '.' ∉ ending.toList := by decide
  have ends : (front ++ dotted).toList = front.toList ++ '.' :: ending.toList := by
    rw [String.toList_append, point]
  refine ⟨ending, among, ?_⟩
  rw [Path.extension?_name isFile ends (fun empty => more (String.toList_eq_nil_iff.1 empty)) (plain ending among),
    String.ofList_toList]

theorem isOutputName_temporary (isFile : IsFileName name) : IsOutputName (name ++ ".tmp") := by
  have point : (".tmp" : String).toList = '.' :: ("tmp" : String).toList := rfl
  exact isOutputName_of_append (Path.isFileName_temporary isFile) isFile.nonempty point (by decide)

end Waymark
