import Waymark.Proofs.Path.Parent

/-! A name appended to a path: the names to step along, and those of the temporary file. A path that ends in a
name is named by it. -/

set_option autoImplicit false

namespace Waymark.Path

variable {name : String} {path : Path}

/-- The names of a path, without the silent step that a slash at the end asks for. -/
def names (path : Path) : List String := pieceNames (Text.split '/' path.text.toList)

theorem steps_names (path : Path) : ∃ n, path.steps = path.names ++ List.replicate n "." :=
  steps_silent path

theorem names_join (dir : Path) (isFile : IsFileName name) :
    (dir.join name).names = dir.names ++ [name] := by
  have last : pieceNames [name.toList] = [name] := by
    rw [pieceNames_cons (toList_ne_nil isFile), pieceNames_nil, String.ofList_toList]
  obtain ⟨before, pieces, ends⟩ := split_join dir isFile
  rw [names, pieces, pieceNames_append, last, names]
  rcases ends with same | slash
  · rw [same]
  · rw [slash, pieceNames_append, pieceNames_empty, pieceNames_nil, List.append_nil]

theorem steps_join (dir : Path) (isFile : IsFileName name) :
    (dir.join name).steps = dir.names ++ [name] := by
  obtain ⟨before, pieces, -⟩ := split_join dir isFile
  rw [steps_of_getLast? (by simp [pieces, toList_ne_nil isFile])]
  exact names_join dir isFile

theorem isAbsolute_join (dir : Path) (isFile : IsFileName name) :
    (dir.join name).isAbsolute = dir.isAbsolute := by
  have relative : name.toList.head? ≠ some '/' := fun head =>
    isFile.plain (List.mem_of_mem_head? head)
  unfold join
  rw [if_neg relative]
  split
  · cases text : dir.text.toList with
    | nil => simp [isAbsolute, String.toList_append, text, relative]
    | cons c rest => simp [isAbsolute, String.toList_append, text]
  · rename_i some
    cases text : dir.text.toList with
    | nil => simp [text] at some
    | cons c rest => simp [isAbsolute, String.toList_append, text]

theorem text_join_ne_empty (dir : Path) (isFile : IsFileName name) : (dir.join name).text ≠ "" := by
  intro empty
  have names := names_join dir isFile
  unfold Path.names at names
  rw [empty] at names
  have := congrArg List.length names
  simp [Text.split, pieceNames] at this

theorem text_ne_empty_of_steps (more : path.steps ≠ []) : path.text ≠ "" := by
  rintro empty
  obtain ⟨text⟩ := path
  subst empty
  exact more rfl

theorem parent?_join_steps (dir : Path) (isFile : IsFileName name) :
    ∃ (parent : Path) (n : Nat), (dir.join name).parent? = some parent ∧
      dir.names = parent.steps ++ List.replicate n "." ∧
      (parent.text = "" → dir.isAbsolute = false) ∧
      (parent.text ≠ "" → parent.isAbsolute = dir.isAbsolute) := by
  have steps := steps_join dir isFile
  rcases steps_of_parent (dir.join name) with ⟨n, silent⟩ | ⟨parent, last, n, m, above, steps', top, same⟩
  · rw [steps] at silent
    have : name ∈ List.replicate n "." := silent ▸ by simp
    exact absurd (List.eq_of_mem_replicate this) isFile.isName.1
  · rw [isAbsolute_join dir isFile] at top same
    rw [steps] at steps'
    -- Nothing silent follows the name.
    obtain rfl : m = 0 := by
      cases m with
      | zero => rfl
      | succ m =>
        have ends := congrArg List.getLast? steps'
        simp [List.replicate_succ', List.getLast?_cons] at ends
        exact absurd ends isFile.isName.1
    refine ⟨parent, n, above, ?_, top, same⟩
    have split : dir.names ++ [name] = (parent.steps ++ List.replicate n ".") ++ [last] := by
      rw [steps', List.replicate_zero, List.append_assoc]
    exact (List.append_inj' split rfl).1

theorem parent?_join (dir : Path) (isFile : IsFileName name) :
    ∃ (parent : Path) (n : Nat), (dir.join name).parent? = some parent ∧
      dir.names = parent.names ++ List.replicate n "." ∧
      (parent.text = "" → dir.isAbsolute = false) ∧
      (parent.text ≠ "" → parent.isAbsolute = dir.isAbsolute) := by
  obtain ⟨parent, n, above, names, top, same⟩ := parent?_join_steps dir isFile
  obtain ⟨j, steps⟩ := steps_names parent
  refine ⟨parent, j + n, above, ?_, top, same⟩
  rw [names, steps, ← List.replicate_append_replicate, List.append_assoc]

theorem parent?_join_join (dir : Path) {room : String} (isRoom : IsFileName room) (isFile : IsFileName name) :
    ∃ parent : Path, ((dir.join room).join name).parent? = some parent ∧ parent.text ≠ "" ∧
      parent.steps = dir.names ++ [room] ∧ parent.isAbsolute = dir.isAbsolute := by
  obtain ⟨parent, n, above, names, -, same⟩ := parent?_join_steps (dir.join room) isFile
  rw [names_join dir isRoom] at names
  -- Nothing silent follows the directory.
  obtain rfl : n = 0 := by
    cases n with
    | zero => rfl
    | succ n =>
      have ends := congrArg List.getLast? names
      simp [List.replicate_succ', List.getLast?_append] at ends
      exact absurd ends isRoom.isName.1
  rw [List.replicate_zero, List.append_nil] at names
  have some : parent.text ≠ "" := text_ne_empty_of_steps (by simp [← names])
  exact ⟨parent, above, some, names.symm, (same some).trans (isAbsolute_join dir isRoom)⟩

theorem temporary_join (dir : Path) (isFile : IsFileName name) :
    ∃ (parent : Path) (n : Nat), (dir.join name).temporary = parent.join (name ++ ".tmp") ∧
      dir.names = parent.names ++ List.replicate n "." ∧ parent.isAbsolute = dir.isAbsolute := by
  have found : (dir.join name).fileName?.isSome = true := by simp [fileName?_join dir isFile]
  obtain ⟨parent, n, above, names, top, same⟩ := parent?_join dir isFile
  refine ⟨parent, n, ?_, names, ?_⟩
  · unfold temporary withFileName
    rw [if_pos found, fileName?_join dir isFile, above]
    rfl
  · by_cases empty : parent.text = ""
    · rw [top empty]
      obtain ⟨text⟩ := parent
      subst empty
      rfl
    · exact same empty

theorem temporary_join_join (dir : Path) {room : String} (isRoom : IsFileName room) (isFile : IsFileName name) :
    ∃ parent : Path, ((dir.join room).join name).temporary = parent.join (name ++ ".tmp") ∧
      parent.names = dir.names ++ [room] ∧ parent.isAbsolute = dir.isAbsolute := by
  obtain ⟨parent, n, same, names, absolute⟩ := temporary_join (dir.join room) isFile
  rw [names_join dir isRoom] at names
  rw [isAbsolute_join dir isRoom] at absolute
  cases n with
  | zero => exact ⟨parent, same, by simpa using names.symm, absolute⟩
  | succ n =>
    have ends := congrArg List.getLast? names
    simp [List.replicate_succ', List.getLast?_append] at ends
    exact absurd ends isRoom.isName.1

/-! The last name of a path -/

theorem isFileName_of_fileName? (named : path.fileName? = some name) : IsFileName name := by
  obtain ⟨-, plain, -⟩ := split_spec path
  obtain ⟨⟨behind, pieces, -⟩, loud⟩ := trimPieces_spec path.split.2
  unfold fileName? at named
  split at named
  · rename_i piece ends
    split at named
    · cases named
    · rename_i notUp
      cases named
      have among : piece ∈ path.split.2 := by
        rw [pieces]
        exact List.mem_append_left _ (List.mem_of_mem_getLast? ends)
      have loud := loud piece ends
      refine ⟨?_, by simpa using plain piece among, ?_, ?_⟩
      · intro empty
        obtain rfl : piece = [] := by simpa using empty
        simp [isSilent] at loud
      · intro point
        obtain rfl : piece = ['.'] := by simpa using congrArg String.toList point
        simp [isSilent] at loud
      · intro up
        exact notUp (by simpa using congrArg String.toList up)
  · cases named

theorem fileName?_of_getLast? (isName : IsName name) (ends : path.steps.getLast? = some name) :
    path.fileName? = some name := by
  obtain ⟨-, -, names⟩ := split_spec path
  obtain ⟨slashes, steps⟩ := steps_silent path
  obtain ⟨⟨behind, pieces, silent⟩, loud⟩ := trimPieces_spec path.split.2
  obtain ⟨points, behindNames⟩ := pieceNames_silent silent
  have steps : path.steps = (frontNames path.split.1 ++ pieceNames (trimPieces path.split.2)) ++
      List.replicate (points + slashes) "." := by
    conv at names => rhs; rw [pieces, pieceNames_append, behindNames]
    rw [steps, names, ← List.replicate_append_replicate]
    simp only [List.append_assoc]
  -- Nothing silent follows the name.
  have bare : points + slashes = 0 := by
    cases count : points + slashes with
    | zero => rfl
    | succ n =>
      rw [steps, count, List.replicate_succ', ← List.append_assoc, List.getLast?_concat] at ends
      exact absurd (Option.some.inj ends).symm isName.1
  rw [steps, bare, List.replicate_zero, List.append_nil] at ends
  rcases List.eq_nil_or_concat (trimPieces path.split.2) with none | ⟨before, last, trimmed⟩
  · rw [none, pieceNames_nil, List.append_nil, frontNames] at ends
    split at ends
    · exact absurd (Option.some.inj ends).symm isName.1
    · cases ends
  · rw [List.concat_eq_append] at trimmed
    have loud := loud last (by simp [trimmed])
    have some : last ≠ [] := by
      rintro rfl
      simp [isSilent] at loud
    rw [trimmed, pieceNames_append, pieceNames_cons some, pieceNames_nil, ← List.append_assoc,
      List.getLast?_concat, Option.some.injEq] at ends
    have notUp : last ≠ ['.', '.'] := fun up => isName.2 (by rw [← ends, up])
    simp [fileName?, trimmed, notUp, ends]

theorem getLast?_steps_temporary_of_name (isName : IsName name) (ends : path.steps.getLast? = some name) :
    path.temporary.steps.getLast? = some (name ++ ".tmp") := by
  have named := fileName?_of_getLast? isName ends
  have found : path.fileName?.isSome = true := by simp [named]
  unfold temporary withFileName
  rw [if_pos found, named]
  exact getLast?_steps_join _ (isFileName_temporary (isFileName_of_fileName? named))

end Waymark.Path
