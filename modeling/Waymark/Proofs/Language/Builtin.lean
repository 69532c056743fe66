import Waymark.Language.Builtin
import Waymark.Proofs.Table

/-! Looking up languages. Of the sources that share an extension the last one that is well-formed is
found, and every language that is known from the start comes from one of the listed sources.
-/

set_option autoImplicit false

namespace Waymark

variable {source : LanguageSource} {language : Language} {extension : String}

theorem Language.of?_window (compiled : Language.of? source = some language) :
    language.name = source.name ∧ language.window = source.window := by
  unfold Language.of? at compiled
  obtain ⟨rules, -, compiled⟩ := Option.bind_eq_some_iff.1 compiled
  obtain ⟨marker, -, compiled⟩ := Option.bind_eq_some_iff.1 compiled
  cases compiled
  exact ⟨rfl, rfl⟩

namespace LanguageSource

def covers (source : LanguageSource) (extension : String) : Bool :=
  (source.extensions.map Languages.key).contains (Languages.key extension)

end LanguageSource

namespace Languages

def registerAll (languages : Languages) (sources : List LanguageSource) : Languages :=
  sources.foldl (fun languages source => (languages.register? source).getD languages) languages

theorem builtin_eq : builtin = none.registerAll Language.sources := rfl

theorem find?_add (languages : Languages) (extensions : List String) (language : Language) (extension : String) :
    (languages.add extensions language).find? extension =
      if key extension ∈ extensions.map key then some language else languages.find? extension := by
  induction extensions generalizing languages with
  | nil => rfl
  | cons first rest ih =>
    have next : languages.add (first :: rest) language =
        add ⟨languages.byExtension.insert (key first) language⟩ rest language := rfl
    have inserted : find? ⟨languages.byExtension.insert (key first) language⟩ extension =
        if key extension = key first then some language else languages.find? extension := lookup_insertEntry
    rw [next, ih, inserted, List.map_cons]
    by_cases later : key extension ∈ rest.map key
    · rw [if_pos later, if_pos (List.mem_cons_of_mem _ later)]
    · by_cases here : key extension = key first
      · rw [if_neg later, if_pos here, if_pos (here ▸ List.mem_cons_self)]
      · rw [if_neg later, if_neg here, if_neg (by simp [here, later])]

theorem find?_register (languages : Languages) (source : LanguageSource) (extension : String) :
    ((languages.register? source).getD languages).find? extension =
      (if source.covers extension then Language.of? source else .none).or (languages.find? extension) := by
  rw [register?]
  cases Language.of? source with
  | none => simp
  | some language =>
    rw [Option.map_some, Option.getD_some, find?_add, LanguageSource.covers]
    by_cases covered : key extension ∈ source.extensions.map key
    · rw [if_pos covered, if_pos (List.contains_iff_mem.2 covered), Option.some_or]
    · rw [if_neg covered, if_neg fun found => covered (List.contains_iff_mem.1 found), Option.none_or]

theorem find?_registerAll (languages : Languages) (sources : List LanguageSource) (extension : String) :
    (languages.registerAll sources).find? extension =
      ((sources.reverse.filter (·.covers extension)).findSome? Language.of?).or (languages.find? extension) := by
  induction sources generalizing languages with
  | nil => rfl
  | cons source rest ih =>
    have next : languages.registerAll (source :: rest) =
        ((languages.register? source).getD languages).registerAll rest := rfl
    rw [next, ih, find?_register, List.reverse_cons, List.filter_append, List.findSome?_append, Option.or_assoc]
    cases covered : source.covers extension with
    | true => simp [covered]
    | false => simp [covered]

theorem find?_builtin (extension : String) : builtin.find? extension =
    (Language.sources.reverse.filter (·.covers extension)).findSome? Language.of? := by
  rw [builtin_eq, find?_registerAll]
  exact Option.or_none

theorem source_of_find? (known : builtin.find? extension = some language) :
    ∃ source ∈ Language.sources, Language.of? source = some language := by
  rw [find?_builtin] at known
  obtain ⟨source, among, compiled⟩ := List.exists_of_findSome?_eq_some known
  exact ⟨source, List.mem_reverse.1 (List.mem_filter.1 among).1, compiled⟩

theorem find?_uncovered (uncovered : ∀ source ∈ Language.sources, source.covers extension = false) :
    builtin.find? extension = .none := by
  rw [find?_builtin]
  have empty : Language.sources.reverse.filter (·.covers extension) = [] := by
    rw [List.filter_eq_nil_iff]
    intro source among
    rw [uncovered source (List.mem_reverse.1 among)]
    exact Bool.false_ne_true
  rw [empty]
  rfl

end Languages

end Waymark
