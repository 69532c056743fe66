import Waymark.Proofs.Path.Steps

/-! The path above a path: one leads to the other by a single name, with silent steps around it. -/

set_option autoImplicit false

namespace Waymark.Path

theorem pieceNames_silent {pieces : List (List Char)} (silent : ∀ piece ∈ pieces, isSilent piece) :
    ∃ n, pieceNames pieces = List.replicate n "." := by
  induction pieces with
  | nil => exact ⟨0, rfl⟩
  | cons first rest ih =>
    obtain ⟨n, names⟩ := ih fun piece member => silent piece (List.mem_cons_of_mem _ member)
    have firstSilent := silent first List.mem_cons_self
    simp only [isSilent, Bool.or_eq_true, beq_iff_eq] at firstSilent
    rcases firstSilent with rfl | rfl
    · exact ⟨n, by rw [pieceNames_empty, names]⟩
    · refine ⟨n + 1, ?_⟩
      rw [pieceNames_cons (by simp), names, List.replicate_succ]

theorem trimPieces_spec (pieces : List (List Char)) :
    (∃ silent, pieces = trimPieces pieces ++ silent ∧ ∀ piece ∈ silent, isSilent piece) ∧
      ∀ last ∈ (trimPieces pieces).getLast?, isSilent last = false := by
  constructor
  · refine ⟨(pieces.reverse.takeWhile isSilent).reverse, ?_, fun piece member => ?_⟩
    · rw [trimPieces, ← List.reverse_append, List.takeWhile_append_dropWhile, List.reverse_reverse]
    · exact List.all_eq_true.1 List.all_takeWhile _ (List.mem_reverse.1 member)
  · intro last ends
    rw [trimPieces, List.getLast?_reverse] at ends
    have := List.head?_dropWhile_not isSilent pieces.reverse
    rw [Option.mem_def.1 ends] at this
    simpa using this

def frontNames (front : List Char) : List String := if front = ['.'] then ["."] else []

theorem split_spec (path : Path) :
    (path.split.1 = ['/'] ∧ path.isAbsolute = true ∨
      path.isAbsolute = false ∧ (path.split.1 = ['.'] ∧ (∀ first ∈ path.split.2.head?, first = []) ∨
        path.split.1 = [] ∧ (∀ first ∈ path.split.2.head?, first = [] → path.split.2 = [[]]))) ∧
    (∀ piece ∈ path.split.2, '/' ∉ piece) ∧
    pieceNames (Text.split '/' path.text.toList) = frontNames path.split.1 ++ pieceNames path.split.2 := by
  -- A text starts at the root, or with a point and a slash, or is a point alone, or none of these.
  unfold split isAbsolute
  split
  · rename_i rest text
    refine ⟨.inl ⟨rfl, by simp [text]⟩, fun _ member => Text.not_mem_of_mem_split member, ?_⟩
    rw [text, Text.split_separator, pieceNames_empty]
    rfl
  · rename_i rest text
    have other : '.' :: '/' :: rest = ['.'] ++ '/' :: rest := rfl
    refine ⟨.inr ⟨by simp [text], .inl ⟨rfl, ?_⟩⟩, fun _ member => Text.not_mem_of_mem_split member, ?_⟩
    · simp [Text.split_separator]
    · rw [text, other, Text.split_append, Text.split_plain (by decide), Text.split_separator,
        pieceNames_empty, pieceNames_append]
      rfl
  · rename_i text
    refine ⟨.inr ⟨by simp [text], .inl ⟨rfl, by simp⟩⟩, by simp, ?_⟩
    rw [text, Text.split_plain (by decide)]
    rfl
  · rename_i chars slash _ _
    refine ⟨.inr ?_, fun _ member => Text.not_mem_of_mem_split member, rfl⟩
    cases text : path.text.toList with
    | nil => exact ⟨by simp, .inr ⟨rfl, by simp [Text.split]⟩⟩
    | cons c rest =>
      have plain : c ≠ '/' := fun same => slash rest (by rw [text, same])
      obtain ⟨piece, pieces, -, after⟩ := Text.split_cons plain rest
      exact ⟨by simpa using plain, .inr ⟨rfl, by simp [after]⟩⟩

theorem steps_ofPieces {front : List Char} {pieces : List (List Char)}
    (fronts : front = ['/'] ∨ front = ['.'] ∧ (∀ first ∈ pieces.head?, first = []) ∨ front = [])
    (plain : ∀ piece ∈ pieces, '/' ∉ piece) (ends : pieces.getLast? ≠ some []) :
    steps ⟨String.ofList (front ++ Text.join ['/'] pieces)⟩ = frontNames front ++ pieceNames pieces := by
  rcases fronts with rfl | ⟨rfl, first⟩ | rfl
  · by_cases none : pieces = []
    · subst none; rfl
    · have text : Text.split '/' (['/'] ++ Text.join ['/'] pieces) = [] :: pieces := by
        rw [List.singleton_append, Text.split_separator, Text.split_join none plain]
      rw [steps_of_getLast?, String.toList_ofList, text, pieceNames_empty]
      · rfl
      · rw [String.toList_ofList, text, List.getLast?_cons_of_ne_nil none]
        exact ends
  · cases pieces with
    | nil => rfl
    | cons head rest =>
      obtain rfl := first head rfl
      -- The point is a piece of its own, which the front stands for.
      have more : rest ≠ [] := by rintro rfl; simp at ends
      have text : Text.split '/' (['.'] ++ Text.join ['/'] ([] :: rest)) = ['.'] :: rest := by
        have joined : ['.'] ++ Text.join ['/'] ([] :: rest) = ['.'] ++ '/' :: Text.join ['/'] rest := by
          cases rest with
          | nil => exact absurd rfl more
          | cons _ _ => rfl
        rw [joined, Text.split_append, Text.split_plain (by decide), Text.split_join more]
        · rfl
        · exact fun piece member => plain piece (List.mem_cons_of_mem _ member)
      rw [steps_of_getLast?, String.toList_ofList, text, pieceNames_cons (by simp), pieceNames_empty]
      · rfl
      · rw [String.toList_ofList, text, List.getLast?_cons_of_ne_nil more]
        rwa [List.getLast?_cons_of_ne_nil more] at ends
  · by_cases none : pieces = []
    · subst none; rfl
    · rw [steps_of_getLast?, String.toList_ofList, List.nil_append, Text.split_join none plain]
      · rfl
      · rwa [String.toList_ofList, List.nil_append, Text.split_join none plain]

theorem isAbsolute_ofPieces {front : List Char} {pieces : List (List Char)}
    (fronts : front = ['.'] ∨ front = [] ∧ ∀ first ∈ pieces.head?, first ≠ [])
    (plain : ∀ piece ∈ pieces, '/' ∉ piece) :
    isAbsolute ⟨String.ofList (front ++ Text.join ['/'] pieces)⟩ = false := by
  unfold isAbsolute
  rcases fronts with rfl | ⟨rfl, first⟩
  · simp
  · cases pieces with
    | nil => simp [Text.join]
    | cons head rest =>
      obtain ⟨c, more, rfl⟩ := List.exists_cons_of_ne_nil (first head rfl)
      have other : c ≠ '/' := fun same => plain _ List.mem_cons_self (same ▸ List.mem_cons_self)
      cases rest <;> simp [Text.join, other]

theorem pieceNames_trimPieces (pieces : List (List Char)) :
    ∃ n, pieceNames pieces = pieceNames (trimPieces pieces) ++ List.replicate n "." := by
  obtain ⟨⟨behind, same, silent⟩, -⟩ := trimPieces_spec pieces
  obtain ⟨n, names⟩ := pieceNames_silent silent
  refine ⟨n, ?_⟩
  conv => lhs; rw [same]
  rw [pieceNames_append, names]

/-- What stands before the last piece is trimmed once more, and is still what the pieces begin with. -/
theorem trimPieces_init {pieces init : List (List Char)} {last : List Char}
    (trimmed : trimPieces pieces = init ++ [last]) :
    trimPieces init <+: pieces ∧ (∀ first ∈ (trimPieces init).head?, first ∈ pieces.head?) ∧
      (trimPieces init).getLast? ≠ some [] ∧ last ≠ [] := by
  obtain ⟨⟨behind, same, -⟩, ends⟩ := trimPieces_spec pieces
  obtain ⟨⟨between, initial, -⟩, initEnds⟩ := trimPieces_spec init
  rw [trimmed] at same ends
  have begins : trimPieces init <+: pieces := by
    refine ⟨between ++ [last] ++ behind, ?_⟩
    rw [same]
    conv => rhs; rw [initial]
    simp
  refine ⟨begins, fun first member => ?_, fun empty => ?_, ?_⟩
  · rw [Option.mem_def, ← List.singleton_prefix_iff_head?_eq_some] at member ⊢
    exact member.trans begins
  · cases initEnds [] empty
  · rintro rfl
    cases ends [] (by simp)

theorem isAbsolute_above {path : Path} {init : List (List Char)} {last : List Char}
    (trimmed : trimPieces path.split.2 = init ++ [last]) :
    (path.split.1 ++ Text.join ['/'] (trimPieces init) = [] → path.isAbsolute = false) ∧
      isAbsolute ⟨String.ofList (path.split.1 ++ Text.join ['/'] (trimPieces init))⟩ = path.isAbsolute := by
  obtain ⟨fronts, plain, -⟩ := split_spec path
  obtain ⟨begins, firsts, -, -⟩ := trimPieces_init trimmed
  rcases fronts with ⟨root, absolute⟩ | ⟨relative, fronts⟩
  · rw [root, absolute]
    simp [isAbsolute]
  · refine ⟨fun _ => relative, ?_⟩
    rw [relative]
    refine isAbsolute_ofPieces (fronts.imp And.left fun bare => ⟨bare.1, ?_⟩)
      fun piece member => plain piece (begins.subset member)
    -- An empty piece in front would be the only one, and trimming would leave nothing.
    intro first member empty
    rw [bare.2 first (firsts first member) empty] at trimmed
    have nothing : trimPieces [[]] = [] := rfl
    rw [nothing] at trimmed
    cases init <;> cases trimmed

/-- A path either says nothing or leads on from the one above it by one name. -/
theorem steps_of_parent (path : Path) :
    (∃ n, path.steps = List.replicate n ".") ∨
      ∃ parent last n m, path.parent? = some parent ∧
        path.steps = parent.steps ++ (List.replicate n "." ++ last :: List.replicate m ".") ∧
        (parent.text = "" → path.isAbsolute = false) ∧
        (parent.text ≠ "" → parent.isAbsolute = path.isAbsolute) := by
  obtain ⟨fronts, plain, names⟩ := split_spec path
  obtain ⟨slashes, steps⟩ := steps_silent path
  obtain ⟨m, behind⟩ := pieceNames_trimPieces path.split.2
  rw [names, behind] at steps
  -- What trimming leaves ends with the last name, if anything is left.
  rcases List.eq_nil_or_concat (trimPieces path.split.2) with none | ⟨init, last, trimmed⟩
  · left
    rw [none, pieceNames_nil, List.nil_append, frontNames] at steps
    split at steps
    · refine ⟨1 + m + slashes, ?_⟩
      rw [steps, ← List.replicate_append_replicate, ← List.replicate_append_replicate]
      rfl
    · refine ⟨m + slashes, ?_⟩
      rw [steps, ← List.replicate_append_replicate]
      rfl
  · right
    rw [List.concat_eq_append] at trimmed
    obtain ⟨begins, firsts, ends, more⟩ := trimPieces_init trimmed
    obtain ⟨n, between⟩ := pieceNames_trimPieces init
    obtain ⟨top, same⟩ := isAbsolute_above trimmed
    refine ⟨⟨String.ofList (path.split.1 ++ Text.join ['/'] (trimPieces init))⟩,
      String.ofList last, n, m + slashes, ?_, ?_, fun empty => top ?_, fun _ => same⟩
    · simp only [parent?, trimmed, List.reverse_append, List.reverse_cons, List.reverse_nil, List.nil_append,
        List.singleton_append, List.reverse_reverse]
    · rw [steps_ofPieces ?_ (fun piece member => plain piece (begins.subset member)) ends, steps, trimmed,
        pieceNames_append, between, pieceNames_cons more, ← List.replicate_append_replicate]
      · simp
      · rcases fronts with ⟨root, -⟩ | ⟨-, ⟨here, first⟩ | ⟨bare, -⟩⟩
        · exact .inl root
        · exact .inr (.inl ⟨here, fun head member => first head (firsts head member)⟩)
        · exact .inr (.inr bare)
    · rw [← String.toList_inj, String.toList_ofList] at empty
      exact empty

end Waymark.Path
