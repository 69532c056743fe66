import Waymark.Ignore.Rules
import Waymark.Proofs.Path.Steps

/-! The path of an entry relative to the root of a scan: its names with slashes between them. It has these
names as its segments, so different entries have different paths.
-/

set_option autoImplicit false

namespace Waymark

variable {rules : IgnoreRules} {names others : List String}

namespace Path

def relative (names : List String) : Path := ⟨"/".intercalate names⟩

theorem intercalate_eq_join (pieces : List (List Char)) : ['/'].intercalate pieces = Text.join ['/'] pieces := by
  induction pieces with
  | nil => rfl
  | cons first rest ih =>
    cases rest with
    | nil => exact List.intercalate_singleton
    | cons second more =>
      have step : Text.join ['/'] (first :: second :: more) =
          first ++ ['/'] ++ Text.join ['/'] (second :: more) := rfl
      rw [List.intercalate_cons_cons, ih, step]

theorem plain_of_areFiles (areFiles : ∀ name ∈ names, IsFileName name) :
    ∀ piece ∈ names.map String.toList, '/' ∉ piece := by
  intro piece among
  obtain ⟨name, listed, rfl⟩ := List.mem_map.1 among
  exact (areFiles name listed).plain

theorem filter_of_areFiles (areFiles : ∀ name ∈ names, IsFileName name) :
    (names.map String.toList).filter (!isSilent ·) = names.map String.toList := by
  refine List.filter_eq_self.2 fun piece among => ?_
  obtain ⟨name, listed, rfl⟩ := List.mem_map.1 among
  rw [not_isSilent (areFiles name listed)]
  rfl

theorem split_relative (more : names ≠ []) (areFiles : ∀ name ∈ names, IsFileName name) :
    Text.split '/' (relative names).text.toList = names.map String.toList := by
  have slash : ("/" : String).toList = ['/'] := rfl
  rw [relative, String.toList_intercalate, slash, intercalate_eq_join]
  exact Text.split_join (by simpa using more) (plain_of_areFiles areFiles)

theorem relative_inj (more : names ≠ []) (more' : others ≠ []) (areFiles : ∀ name ∈ names, IsFileName name)
    (areFiles' : ∀ name ∈ others, IsFileName name) (same : (relative names).text = (relative others).text) :
    names = others := by
  have pieces := split_relative more areFiles
  rw [same, split_relative more' areFiles'] at pieces
  exact (List.map_inj_right fun a b => String.toList_inj.1).1 pieces.symm

theorem split_plain {path : Path} {first : List Char} {rest : List (List Char)}
    (pieces : Text.split '/' path.text.toList = first :: rest) (begins : first ≠ []) (visible : first ≠ ['.']) :
    path.split = ([], first :: rest) := by
  unfold split
  split
  · rename_i chars slash
    rw [slash, Text.split_separator] at pieces
    exact absurd (List.cons.inj pieces).1.symm begins
  · rename_i chars point
    have apart : Text.split '/' ('.' :: '/' :: chars) = ['.'] :: Text.split '/' chars := by
      rw [← List.singleton_append, Text.split_append, Text.split_plain (by decide)]
      rfl
    rw [point, apart] at pieces
    exact absurd (List.cons.inj pieces).1.symm visible
  · rename_i point
    rw [point, Text.split_plain (by decide)] at pieces
    exact absurd (List.cons.inj pieces).1.symm visible
  · rw [pieces]

theorem pieceComponent_of_isName {name : String} (isName : IsName name) :
    pieceComponent name.toList = .name name := by
  have ordinary : name.toList ≠ ['.', '.'] := fun same => isName.2 (String.toList_inj.1 same)
  rw [pieceComponent, if_neg ordinary, String.ofList_toList]

theorem components_relative (areFiles : ∀ name ∈ names, IsFileName name) :
    (relative names).components = names.map .name := by
  cases names with
  | nil => rfl
  | cons name names =>
    have isFile := areFiles name List.mem_cons_self
    have pieces := split_relative (List.cons_ne_nil name names) areFiles
    have visible : name.toList ≠ ['.'] := fun same => isFile.isName.1 (String.toList_inj.1 same)
    rw [components, split_plain pieces (toList_ne_nil isFile) visible, ← List.map_cons]
    change List.map pieceComponent (List.filter (!isSilent ·) _) = _
    rw [filter_of_areFiles areFiles, List.map_map]
    exact List.map_congr_left fun name among => pieceComponent_of_isName (areFiles name among).isName

end Path

def IgnoreRules.Ignores (rules : IgnoreRules) (names : List String) : Prop :=
  rules.excludesPath (Path.relative names) = true

theorem IgnoreRules.ignores_iff (areFiles : ∀ name ∈ names, IsFileName name) :
    rules.Ignores names ↔ rules.excludes names = true := by
  rw [Ignores, excludesPath, Path.components_relative areFiles, List.map_map]
  have same : names.map (segmentOf ∘ Path.Component.name) = names := List.map_id names
  rw [same]

end Waymark
