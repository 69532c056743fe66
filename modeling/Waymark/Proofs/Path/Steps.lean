import Waymark.Proofs.Text.Pieces
import Waymark.Proofs.Tree.Resolution

/-! The names that a path leads along, for a path with a name appended and for the path above another
one.
-/

set_option autoImplicit false

namespace Waymark

structure IsFileName (name : String) : Prop where
  nonempty : name ≠ ""
  plain : '/' ∉ name.toList
  isName : IsName name

instance (name : String) : Decidable (IsName name) := inferInstanceAs (Decidable (_ ∧ _))

instance (name : String) : Decidable (IsFileName name) :=
  decidable_of_iff (name ≠ "" ∧ '/' ∉ name.toList ∧ IsName name)
    ⟨fun h => ⟨h.1, h.2.1, h.2.2⟩, fun h => ⟨h.nonempty, h.plain, h.isName⟩⟩

theorem isFileName_of_front {name : String} {first second : Char} {rest : List Char}
    (front : name.toList = first :: second :: rest) (letter : first ≠ '.') (plain : '/' ∉ name.toList) :
    IsFileName name := by
  have long : ∀ short : String, short.toList.length < 2 → name ≠ short := by
    intro short length same
    rw [← same, front] at length
    simp only [List.length_cons] at length
    omega
  refine ⟨long "" (by decide), plain, long "." (by decide), fun same => ?_⟩
  rw [same] at front
  exact letter (List.cons.inj front).1.symm

namespace Path

def pieceNames (pieces : List (List Char)) : List String :=
  (pieces.filter (!·.isEmpty)).map String.ofList

@[simp] theorem pieceNames_nil : pieceNames [] = [] := rfl

@[simp] theorem pieceNames_append (a b : List (List Char)) :
    pieceNames (a ++ b) = pieceNames a ++ pieceNames b := by simp [pieceNames]

@[simp] theorem pieceNames_empty (pieces : List (List Char)) :
    pieceNames ([] :: pieces) = pieceNames pieces := by simp [pieceNames]

theorem pieceNames_cons {piece : List Char} (some : piece ≠ []) (pieces : List (List Char)) :
    pieceNames (piece :: pieces) = String.ofList piece :: pieceNames pieces := by
  simp [pieceNames, some]

theorem steps_eq (path : Path) :
    path.steps =
      if (Text.split '/' path.text.toList).getLast? = some [] &&
          !(pieceNames (Text.split '/' path.text.toList)).isEmpty then
        pieceNames (Text.split '/' path.text.toList) ++ ["."]
      else pieceNames (Text.split '/' path.text.toList) := rfl

theorem steps_silent (path : Path) :
    ∃ n, path.steps = pieceNames (Text.split '/' path.text.toList) ++ List.replicate n "." := by
  rw [steps_eq]
  split
  · exact ⟨1, rfl⟩
  · exact ⟨0, (List.append_nil _).symm⟩

theorem steps_of_getLast? {path : Path}
    (ends : (Text.split '/' path.text.toList).getLast? ≠ some []) :
    path.steps = pieceNames (Text.split '/' path.text.toList) := by
  rw [steps_eq, if_neg]
  simp [ends]

/-! A name appended -/

section
variable {name : String}

/-- An appended name is the last piece. Before it stand the pieces of the path, but for the empty one behind a
slash at the end. -/
theorem split_join (dir : Path) (isFile : IsFileName name) :
    ∃ before, Text.split '/' (dir.join name).text.toList = before ++ [name.toList] ∧
      (Text.split '/' dir.text.toList = before ∨ Text.split '/' dir.text.toList = before ++ [[]]) := by
  have relative : name.toList.head? ≠ some '/' := fun head =>
    isFile.plain (List.mem_of_mem_head? head)
  unfold join
  rw [if_neg relative]
  split
  · rename_i ends
    by_cases empty : dir.text.toList = []
    · exact ⟨[], by simp [String.toList_append, empty, Text.split_plain isFile.plain],
        .inr (by rw [empty]; rfl)⟩
    · have last : dir.text.toList.getLast? = some '/' := by simpa [empty] using ends
      obtain ⟨front, same⟩ := List.getLast?_eq_some_iff.1 last
      refine ⟨Text.split '/' front, ?_, .inr (by rw [same, Text.split_append]; rfl)⟩
      rw [String.toList_append, same, List.append_assoc, List.singleton_append, Text.split_append,
        Text.split_plain isFile.plain]
  · refine ⟨Text.split '/' dir.text.toList, ?_, .inl rfl⟩
    have slash : ("/" : String).toList = ['/'] := rfl
    rw [String.toList_append, String.toList_append, slash, List.append_assoc,
      List.singleton_append, Text.split_append, Text.split_plain isFile.plain]

theorem toList_ne_nil (isFile : IsFileName name) : name.toList ≠ [] := fun empty =>
  isFile.nonempty (String.toList_eq_nil_iff.1 empty)

theorem getLast?_steps_join (dir : Path) (isFile : IsFileName name) :
    (dir.join name).steps.getLast? = some name := by
  obtain ⟨before, pieces, -⟩ := split_join dir isFile
  rw [steps_of_getLast? (by simp [pieces, toList_ne_nil isFile]), pieces, pieceNames_append,
    pieceNames_cons (toList_ne_nil isFile)]
  simp

theorem trimPieces_append {pieces : List (List Char)} {last : List Char}
    (loud : isSilent last = false) : trimPieces (pieces ++ [last]) = pieces ++ [last] := by
  simp [trimPieces, loud]

theorem not_isSilent (isFile : IsFileName name) : isSilent name.toList = false := by
  have point : name.toList ≠ ['.'] := fun same =>
    isFile.isName.1 (String.toList_inj.1 (same.trans (by rfl)))
  simp [isSilent, toList_ne_nil isFile, point]

theorem split_ends {path : Path} {before : List (List Char)} {last : List Char}
    (pieces : Text.split '/' path.text.toList = before ++ [last]) (loud : isSilent last = false) :
    ∃ before, path.split.2 = before ++ [last] := by
  -- The front takes pieces away at the beginning only.
  unfold split
  split
  · rename_i rest text
    rw [text, Text.split_separator] at pieces
    cases before with
    | nil => exact absurd (List.cons.inj pieces).2 (Text.split_ne_nil _ _)
    | cons first before => exact ⟨before, (List.cons.inj pieces).2⟩
  · rename_i rest text
    have other : '.' :: '/' :: rest = ['.'] ++ '/' :: rest := rfl
    rw [text, other, Text.split_append, Text.split_plain (by decide)] at pieces
    cases before with
    | nil => exact absurd (List.cons.inj pieces).2 (Text.split_ne_nil _ _)
    | cons first before =>
      refine ⟨[] :: before, ?_⟩
      rw [Text.split_separator]
      exact congrArg _ (List.cons.inj pieces).2
  · rename_i text
    rw [text, Text.split_plain (by decide)] at pieces
    cases before with
    | nil =>
      obtain rfl : ['.'] = last := by simpa using pieces
      simp [isSilent] at loud
    | cons first before => simp at pieces
  · exact ⟨before, pieces⟩

theorem fileName?_join (dir : Path) (isFile : IsFileName name) :
    (dir.join name).fileName? = some name := by
  obtain ⟨before, pieces, -⟩ := split_join dir isFile
  obtain ⟨before, behind⟩ := split_ends pieces (not_isSilent isFile)
  have up : name.toList ≠ ['.', '.'] := fun same =>
    isFile.isName.2 (String.toList_inj.1 (same.trans (by rfl)))
  simp [fileName?, behind, trimPieces_append (not_isSilent isFile), up]

theorem isFileName_temporary (isFile : IsFileName name) : IsFileName (name ++ ".tmp") := by
  have ends : (".tmp" : String).toList = ['.', 't', 'm', 'p'] := rfl
  refine ⟨?_, ?_, ?_, ?_⟩
  · intro empty
    have := congrArg String.toList empty
    simp [String.toList_append, ends] at this
  · rw [String.toList_append, ends, List.mem_append]
    rintro (inside | inside)
    · exact isFile.plain inside
    · simp at inside
  all_goals
    intro same
    have := congrArg (fun text => text.toList.getLast?) same
    simp [String.toList_append, ends] at this

theorem getLast?_steps_temporary (dir : Path) (isFile : IsFileName name) :
    (dir.join name).temporary.steps.getLast? = some (name ++ ".tmp") := by
  have found : (dir.join name).fileName?.isSome = true := by simp [fileName?_join dir isFile]
  unfold temporary withFileName
  rw [if_pos found, fileName?_join dir isFile]
  exact getLast?_steps_join _ (isFileName_temporary isFile)

end

end Path

end Waymark
