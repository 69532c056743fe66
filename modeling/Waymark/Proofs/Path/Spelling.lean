import Mathlib.Data.List.Forall2
import Mathlib.Data.List.Induction
import Mathlib.Data.List.Infix
import Waymark.Proofs.Path.Join
import Waymark.Proofs.Path.Relative
import Waymark.Proofs.Text.Lines
import Waymark.Tree.Basic

/-! Absolute paths that spell a location out: one name after the other, with nothing but empty segments and
points between them. The path above such a path spells the location above, so that the paths above it are
known one by one.
-/

set_option autoImplicit false

namespace Waymark

def Location.upward (location : Location) : List Location := location.inits.reverse

/-- A path that leads from the root along the names of a location. -/
def Path.Spells (path : Path) (location : Location) : Prop :=
  path.components = .root :: location.map .name

instance (path : Path) (location : Location) : Decidable (path.Spells location) :=
  inferInstanceAs (Decidable (_ = _))

namespace Location

variable {location : Location} {name : String}

theorem upward_concat (location : Location) (name : String) :
    upward (location ++ [name]) = (location ++ [name]) :: upward location := by
  simp [upward, List.inits_append]

theorem mem_upward {k : Location} : k ∈ location.upward ↔ k <+: location := by
  rw [upward, List.mem_reverse, List.mem_inits]

theorem upward_eq_cons (location : Location) : ∃ more, location.upward = location :: more := by
  induction location using List.reverseRecOn with
  | nil => exact ⟨[], rfl⟩
  | append_singleton location name => exact ⟨_, upward_concat location name⟩

theorem upward_append (location below : Location) :
    ∃ lower, upward (location ++ below) = lower ++ upward location ∧ lower.length = below.length ∧
      ∀ k ∈ lower, ∃ front last, k = location ++ (front ++ [last]) ∧ front ++ [last] <+: below := by
  induction below using List.reverseRecOn with
  | nil => exact ⟨[], by simp⟩
  | append_singleton below name ih =>
    obtain ⟨lower, same, length, between⟩ := ih
    refine ⟨(location ++ (below ++ [name])) :: lower, ?_, by simp [length], fun k among => ?_⟩
    · rw [← List.append_assoc, upward_concat, same, List.cons_append]
    · rcases List.mem_cons.1 among with rfl | among
      · exact ⟨below, name, rfl, List.prefix_refl _⟩
      · obtain ⟨front, last, split, above⟩ := between k among
        exact ⟨front, last, split, above.trans (List.prefix_append _ _)⟩

end Location

namespace Path

variable {path : Path} {pieces : List (List Char)} {location : Location} {name : String}

theorem filter_trimPieces (pieces : List (List Char)) :
    (trimPieces pieces).filter (!isSilent ·) = pieces.filter (!isSilent ·) := by
  obtain ⟨⟨silent, same, allSilent⟩, -⟩ := trimPieces_spec pieces
  have none : silent.filter (!isSilent ·) = [] :=
    List.filter_eq_nil_iff.2 fun piece among => by simp [allSilent piece among]
  conv => rhs; rw [same]
  rw [List.filter_append, none, List.append_nil]

theorem mem_of_mem_trimPieces {piece : List Char} (among : piece ∈ trimPieces pieces) : piece ∈ pieces := by
  obtain ⟨⟨silent, same, -⟩, -⟩ := trimPieces_spec pieces
  rw [same]
  exact List.mem_append_left _ among

theorem trimPieces_of_filter {before : List (List Char)} {last : List Char}
    (loud : pieces.filter (!isSilent ·) = before ++ [last]) :
    ∃ init, trimPieces pieces = init ++ [last] ∧ init.filter (!isSilent ·) = before := by
  rw [← filter_trimPieces] at loud
  rcases List.eq_nil_or_concat (trimPieces pieces) with none | ⟨init, final, trimmed⟩
  · simp [none] at loud
  · rw [List.concat_eq_append] at trimmed
    have finalLoud : isSilent final = false := (trimPieces_spec pieces).2 final (by simp [trimmed])
    rw [trimmed, List.filter_append, List.filter_cons_of_pos (by simp [finalLoud]), List.filter_nil] at loud
    obtain ⟨front, ends⟩ := List.append_inj' loud rfl
    obtain rfl : final = last := by simpa using ends
    exact ⟨init, trimmed, front⟩

theorem trimPieces_of_filter_nil (silent : pieces.filter (!isSilent ·) = []) : trimPieces pieces = [] := by
  rw [← filter_trimPieces] at silent
  rcases List.eq_nil_or_concat (trimPieces pieces) with none | ⟨init, final, trimmed⟩
  · exact none
  · rw [List.concat_eq_append] at trimmed
    have finalLoud : isSilent final = false := (trimPieces_spec pieces).2 final (by simp [trimmed])
    simp [trimmed, finalLoud] at silent

theorem pieceComponent_name {piece : List Char} (h : pieceComponent piece = .name name) :
    piece = name.toList ∧ piece ≠ ['.', '.'] := by
  unfold pieceComponent at h
  split at h
  · cases h
  · rename_i ordinary
    obtain rfl := Component.name.inj h
    exact ⟨String.toList_ofList.symm, ordinary⟩

theorem pieceComponent_ne_root (piece : List Char) : pieceComponent piece ≠ .root := by
  unfold pieceComponent
  split <;> simp

theorem pieces_of_names (named : pieces.map pieceComponent = location.map .name) :
    pieces = location.map String.toList := by
  induction location generalizing pieces with
  | nil => simpa using named
  | cons name location ih =>
    cases pieces with
    | nil => cases named
    | cons piece pieces =>
      obtain ⟨first, rest⟩ := List.cons.inj named
      rw [List.map_cons, (pieceComponent_name first).1, ih rest]

theorem split_of_isAbsolute (absolute : path.isAbsolute = true) :
    path.split.1 = ['/'] ∧ Text.split '/' path.text.toList = [] :: path.split.2 := by
  unfold isAbsolute at absolute
  cases text : path.text.toList with
  | nil => simp [text] at absolute
  | cons c rest =>
    obtain rfl : c = '/' := by simpa [text] using absolute
    rw [split, text, Text.split_separator]
    exact ⟨rfl, rfl⟩

theorem components_eq (path : Path) :
    path.components =
      (if path.split.1 = ['/'] then [.root] else if path.split.1 = ['.'] then [.here] else []) ++
        (path.split.2.filter (!isSilent ·)).map pieceComponent := rfl

/-- Behind the root the pieces that say something are the names of a location. -/
structure Spelled (path : Path) (location : Location) : Prop where
  absolute : path.isAbsolute = true
  loud : (Text.split '/' path.text.toList).filter (!isSilent ·) = location.map String.toList
  areFiles : ∀ name ∈ location, IsFileName name

theorem Spelled.behind (spelled : path.Spelled location) :
    path.split.2.filter (!isSilent ·) = location.map String.toList := by
  rw [← spelled.loud, (split_of_isAbsolute spelled.absolute).2, List.filter_cons_of_neg (by simp [isSilent])]

theorem Spelled.spells (spelled : path.Spelled location) : path.Spells location := by
  rw [Spells, components_eq, spelled.behind, if_pos (split_of_isAbsolute spelled.absolute).1, List.map_map]
  refine congrArg _ (List.map_congr_left fun name among => ?_)
  exact pieceComponent_of_isName (spelled.areFiles name among).isName

theorem Spells.spelled (spells : path.Spells location) : path.Spelled location := by
  obtain ⟨fronts, plain, -⟩ := split_spec path
  rw [Spells, components_eq] at spells
  -- The first component is the root, which no piece is.
  obtain ⟨front, absolute⟩ : path.split.1 = ['/'] ∧ path.isAbsolute = true := by
    rcases fronts with root | ⟨-, ⟨here, -⟩ | ⟨bare, -⟩⟩
    · exact root
    · simp [here] at spells
    · rw [bare, if_neg (by simp), if_neg (by simp), List.nil_append] at spells
      obtain ⟨piece, -, same⟩ := List.mem_map.1 (spells ▸ List.mem_cons_self :
        Component.root ∈ (path.split.2.filter (!isSilent ·)).map pieceComponent)
      exact absurd same (pieceComponent_ne_root piece)
  rw [if_pos front] at spells
  have named := (List.cons.inj spells).2
  have behind := pieces_of_names named
  refine ⟨absolute, ?_, fun name among => ?_⟩
  · rw [(split_of_isAbsolute absolute).2, List.filter_cons_of_neg (by simp [isSilent]), behind]
  have listed : name.toList ∈ path.split.2.filter (!isSilent ·) := behind ▸ List.mem_map_of_mem among
  obtain ⟨held, speaks⟩ := List.mem_filter.1 listed
  rw [behind, List.map_map] at named
  have ordinary := (pieceComponent_name (List.map_inj_left.1 named name among)).2
  simp only [isSilent, Bool.not_eq_true', Bool.or_eq_false_iff, beq_eq_false_iff_ne] at speaks
  refine ⟨?_, plain _ held, ?_, ?_⟩
  · rintro rfl
    exact speaks.1 rfl
  · rintro rfl
    exact speaks.2 rfl
  · rintro rfl
    exact ordinary rfl

theorem spelled_ofPieces (plain : ∀ piece ∈ pieces, '/' ∉ piece)
    (loud : pieces.filter (!isSilent ·) = location.map String.toList)
    (areFiles : ∀ name ∈ location, IsFileName name) :
    Spelled ⟨String.ofList ('/' :: Text.join ['/'] pieces)⟩ location := by
  refine ⟨by simp [isAbsolute], ?_, areFiles⟩
  rw [String.toList_ofList, Text.split_separator, ← loud]
  by_cases none : pieces = []
  · subst none
    rfl
  · rw [Text.split_join none plain, List.filter_cons_of_neg (by simp [isSilent])]

theorem path_eq (location : Location) :
    location.path = ⟨String.ofList ('/' :: Text.join ['/'] (location.map String.toList))⟩ := by
  have slash : ("/" : String).toList = ['/'] := rfl
  rw [Location.path, Path.mk.injEq, ← String.toList_inj, String.toList_append, String.toList_intercalate, slash,
    intercalate_eq_join, String.toList_ofList, List.singleton_append]

theorem join_path (areFiles : ∀ segment ∈ location ++ [name], IsFileName segment) :
    location.path.join name = (location ++ [name]).path := by
  have isFile := areFiles name (by simp)
  have relative : name.toList.head? ≠ some '/' := fun head => isFile.plain (List.mem_of_mem_head? head)
  rw [Path.join, if_neg relative, path_eq (location ++ [name]), List.map_append, List.map_singleton, Text.join_concat]
  rcases List.eq_nil_or_concat location with rfl | ⟨above, last, rfl⟩
  · simp [path_eq, Text.join]
  · rw [List.concat_eq_append] at areFiles ⊢
    have lastFile := areFiles last (by simp)
    obtain ⟨c, ends⟩ : ∃ c, last.toList.getLast? = some c :=
      Option.ne_none_iff_exists'.1 (by simpa using toList_ne_nil lastFile)
    -- No name ends with a slash, so one is put between.
    have apart : c ≠ '/' := by
      rintro rfl
      exact lastFile.plain (List.mem_of_getLast? ends)
    have text : (Location.path (above ++ [last])).text.toList =
        '/' :: ((above.map String.toList).flatMap (· ++ ['/']) ++ last.toList) := by
      rw [path_eq, List.map_append, List.map_singleton, Text.join_concat, String.toList_ofList]
    have named : (Location.path (above ++ [last])).text.toList.getLast? ≠ some '/' := by
      rw [text, List.getLast?_cons, List.getLast?_append, ends]
      simpa using apart
    have some : (Location.path (above ++ [last])).text.toList ≠ [] := by simp [text]
    have slash : ("/" : String).toList = ['/'] := rfl
    rw [if_neg (by simpa [named] using some), Path.mk.injEq, ← String.toList_inj]
    simp [text, slash]

theorem trimPieces_of_areFiles (areFiles : ∀ name ∈ location, IsFileName name) :
    trimPieces (location.map String.toList) = location.map String.toList := by
  rcases List.eq_nil_or_concat location with rfl | ⟨above, name, rfl⟩
  · rfl
  · rw [List.concat_eq_append] at areFiles ⊢
    rw [List.map_append]
    exact trimPieces_append (not_isSilent (areFiles name (by simp)))

theorem spelled_path (areFiles : ∀ name ∈ location, IsFileName name) : location.path.Spelled location := by
  rw [path_eq]
  exact spelled_ofPieces (plain_of_areFiles areFiles) (filter_of_areFiles areFiles) areFiles

theorem Spelled.join {dir : Path} (spelled : dir.Spelled location) (isFile : IsFileName name) :
    (dir.join name).Spelled (location ++ [name]) := by
  obtain ⟨before, pieces, ends⟩ := split_join dir isFile
  have loud : before.filter (!isSilent ·) = location.map String.toList := by
    rw [← spelled.loud]
    rcases ends with same | slash
    · rw [same]
    · simp [slash, isSilent]
  refine ⟨(isAbsolute_join dir isFile).trans spelled.absolute, ?_, ?_⟩
  · rw [pieces, List.filter_append, loud, List.filter_cons_of_pos (by simp [not_isSilent isFile]), List.map_append]
    rfl
  · intro segment among
    rcases List.mem_append.1 among with above | last
    · exact spelled.areFiles segment above
    · rwa [List.mem_singleton.1 last]

theorem Spelled.fileName? (spelled : path.Spelled location) : path.fileName? = location.getLast? := by
  rcases List.eq_nil_or_concat location with rfl | ⟨above, name, rfl⟩
  · rw [Path.fileName?, trimPieces_of_filter_nil spelled.behind]
    rfl
  · rw [List.concat_eq_append] at spelled ⊢
    have isName := (spelled.areFiles name (by simp)).isName
    obtain ⟨init, trimmed, -⟩ := trimPieces_of_filter (spelled.behind.trans List.map_append)
    rw [Path.fileName?, trimmed, List.getLast?_concat, List.getLast?_concat]
    exact (if_neg fun same => isName.2 (String.toList_inj.1 same)).trans (by rw [String.ofList_toList])

theorem Spelled.parent? (spelled : path.Spelled (location ++ [name])) :
    ∃ parent, path.parent? = some parent ∧ parent.Spelled location := by
  obtain ⟨-, plain, -⟩ := split_spec path
  obtain ⟨init, trimmed, front⟩ := trimPieces_of_filter (spelled.behind.trans List.map_append)
  refine ⟨⟨String.ofList ('/' :: Text.join ['/'] (trimPieces init))⟩, ?_, spelled_ofPieces ?_ ?_ ?_⟩
  · simp [Path.parent?, trimmed, (split_of_isAbsolute spelled.absolute).1]
  · intro piece among
    apply plain
    have kept : piece ∈ trimPieces path.split.2 := by simp [trimmed, mem_of_mem_trimPieces among]
    exact mem_of_mem_trimPieces kept
  · rw [filter_trimPieces, front]
  · exact fun name among => spelled.areFiles name (List.mem_append_left _ among)

theorem Spelled.parent?_root (spelled : path.Spelled []) : path.parent? = none := by
  simp [Path.parent?, trimPieces_of_filter_nil spelled.behind, (split_of_isAbsolute spelled.absolute).1]

theorem split_path (areFiles : ∀ name ∈ location, IsFileName name) (inside : location ≠ []) :
    location.path.split = (['/'], location.map String.toList) := by
  have pieces := Text.split_join (by simpa using inside) (plain_of_areFiles areFiles)
  simp [path_eq, split, pieces]

theorem parent?_path (areFiles : ∀ segment ∈ location ++ [name], IsFileName segment) :
    (location ++ [name]).path.parent? = some location.path := by
  have front := trimPieces_of_areFiles fun n among => areFiles n (List.mem_append_left _ among)
  have whole := trimPieces_of_areFiles areFiles
  rw [List.map_append, List.map_singleton] at whole
  rw [path_eq location]
  simp [Path.parent?, split_path areFiles, whole, front]

theorem Spelled.startsWith_iff {base : Path} {home : Location} (spelled : path.Spelled location)
    (outer : base.Spelled home) : path.startsWith base = true ↔ home <+: location := by
  have apart : Function.Injective Component.name := fun _ _ => Component.name.inj
  rw [startsWith, spelled.spells, outer.spells, List.isPrefixOf_iff_prefix, List.cons_prefix_cons,
    List.prefix_map_iff_of_injective apart]
  simp

/-! The paths above a path -/

theorem ancestorsWithin_upward {Shows : Path → Location → Prop}
    (above : ∀ {path location name}, Shows path (location ++ [name]) →
      ∃ parent, path.parent? = some parent ∧ Shows parent location)
    (top : ∀ {path}, Shows path [] → path.parent? = none) {count : Nat} (shows : Shows path location)
    (enough : location.length < count) :
    List.Forall₂ Shows (ancestorsWithin count path) location.upward := by
  induction location using List.reverseRecOn generalizing path count with
  | nil =>
    obtain ⟨count, rfl⟩ := Nat.exists_eq_add_one_of_ne_zero (Nat.ne_of_gt enough)
    rw [ancestorsWithin, top shows]
    exact .cons shows .nil
  | append_singleton location name ih =>
    obtain ⟨count, rfl⟩ := Nat.exists_eq_add_one_of_ne_zero (Nat.ne_of_gt (Nat.zero_lt_of_lt enough))
    obtain ⟨parent, found, inner⟩ := above shows
    rw [ancestorsWithin, found, Location.upward_concat]
    exact .cons shows (ih inner (by simpa using enough))

theorem Spelled.length_le (spelled : path.Spelled location) : location.length ≤ path.text.length := by
  have most : (Text.split '/' path.text.toList).length ≤ path.text.toList.length + 1 := Text.length_split_le _
  rw [(split_of_isAbsolute spelled.absolute).2, List.length_cons, String.length_toList] at most
  calc location.length = (path.split.2.filter (!isSilent ·)).length := by rw [spelled.behind, List.length_map]
    _ ≤ path.split.2.length := List.length_filter_le _ _
    _ ≤ path.text.length := Nat.le_of_succ_le_succ most

theorem Spelled.ancestors (spelled : path.Spelled location) :
    List.Forall₂ Spelled path.ancestors location.upward :=
  ancestorsWithin_upward Spelled.parent? Spelled.parent?_root spelled (Nat.lt_succ_of_le spelled.length_le)

theorem Spelled.find?_ancestors (spelled : path.Spelled location) {shown : Path → Bool} {listed : Location → Bool}
    (alike : ∀ {path location}, path.Spelled location → shown path = listed location) :
    Option.Rel Spelled (path.ancestors.find? shown) (location.upward.find? listed) := by
  have all := spelled.ancestors
  generalize path.ancestors = paths, location.upward = locations at all
  induction all with
  | nil => exact .none
  | cons first rest ih =>
    rw [List.find?_cons, List.find?_cons, alike first]
    split
    · exact .some first
    · exact ih

theorem ancestors_path (areFiles : ∀ name ∈ location, IsFileName name) :
    location.path.ancestors = location.upward.map Location.path := by
  have all : List.Forall₂ (fun path location => path = location.path ∧ ∀ name ∈ location, IsFileName name)
      location.path.ancestors location.upward := by
    refine ancestorsWithin_upward ?_ ?_ ⟨rfl, areFiles⟩ (Nat.lt_succ_of_le (spelled_path areFiles).length_le)
    · rintro path location name ⟨rfl, areFiles⟩
      exact ⟨_, parent?_path areFiles, rfl, fun n among => areFiles n (List.mem_append_left _ among)⟩
    · rintro path ⟨rfl, areFiles⟩
      exact (spelled_path areFiles).parent?_root
  exact List.forall₂_eq_eq_eq ▸ List.forall₂_map_right_iff.2 (all.imp fun _ _ same => same.1)

end Path

end Waymark
