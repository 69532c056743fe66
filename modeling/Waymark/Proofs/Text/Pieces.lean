import Waymark.Text.Lines

/-! Splitting at a separator and joining again. -/

set_option autoImplicit false

namespace Waymark.Text

variable {separator : Char}

theorem split_ne_nil (separator : Char) (text : List Char) : split separator text ≠ [] := by
  induction text with
  | nil => simp [split]
  | cons c rest ih =>
    unfold split
    split
    · simp
    · split <;> simp

theorem split_cons {c : Char} (plain : c ≠ separator) (rest : List Char) :
    ∃ piece pieces, split separator rest = piece :: pieces ∧
      split separator (c :: rest) = (c :: piece) :: pieces := by
  obtain ⟨piece, pieces, same⟩ := List.exists_cons_of_ne_nil (split_ne_nil separator rest)
  exact ⟨piece, pieces, same, by simp [split, plain, same]⟩

@[simp] theorem split_separator (rest : List Char) :
    split separator (separator :: rest) = [] :: split separator rest := by simp [split]

theorem length_split_le (text : List Char) : (split separator text).length ≤ text.length + 1 := by
  induction text with
  | nil => simp [split]
  | cons c rest ih =>
    by_cases same : c = separator
    · subst same
      simpa using ih
    · obtain ⟨piece, pieces, before, after⟩ := split_cons same rest
      rw [before] at ih
      rw [after, List.length_cons, List.length_cons]
      exact Nat.le_succ_of_le ih

theorem split_append (text rest : List Char) :
    split separator (text ++ separator :: rest) = split separator text ++ split separator rest := by
  induction text with
  | nil => simp [split]
  | cons c text ih =>
    by_cases same : c = separator
    · subst same; simp [ih]
    · obtain ⟨piece, pieces, before, after⟩ := split_cons same text
      obtain ⟨piece', pieces', before', after'⟩ := split_cons same (text ++ separator :: rest)
      rw [ih, before, List.cons_append] at before'
      obtain ⟨rfl, rfl⟩ := List.cons.inj before'
      rw [List.cons_append, after', after, List.cons_append]

theorem split_plain {text : List Char} (plain : separator ∉ text) :
    split separator text = [text] := by
  induction text with
  | nil => rfl
  | cons c text ih =>
    rw [List.mem_cons, not_or] at plain
    obtain ⟨piece, pieces, before, after⟩ := split_cons (Ne.symm plain.1) text
    rw [ih plain.2] at before
    obtain ⟨rfl, rfl⟩ := List.cons.inj before
    exact after

theorem not_mem_of_mem_split {text piece : List Char} (member : piece ∈ split separator text) :
    separator ∉ piece := by
  induction text generalizing piece with
  | nil => simp_all [split]
  | cons c text ih =>
    by_cases same : c = separator
    · subst same
      rw [split_separator, List.mem_cons] at member
      rcases member with rfl | member
      · simp
      · exact ih member
    · obtain ⟨first, pieces, before, after⟩ := split_cons same text
      rw [after, List.mem_cons] at member
      rcases member with rfl | member
      · have := ih (before ▸ List.mem_cons_self : first ∈ split separator text)
        simp [Ne.symm same, this]
      · exact ih (before ▸ List.mem_cons_of_mem _ member)

theorem split_join {pieces : List (List Char)} (some : pieces ≠ [])
    (plain : ∀ piece ∈ pieces, separator ∉ piece) :
    split separator (join [separator] pieces) = pieces := by
  induction pieces with
  | nil => exact absurd rfl some
  | cons first rest ih =>
    have plainFirst := split_plain (plain first List.mem_cons_self)
    cases rest with
    | nil => simpa [join] using plainFirst
    | cons second more =>
      have step : join [separator] (first :: second :: more) =
          first ++ separator :: join [separator] (second :: more) := by simp [join]
      rw [step, split_append, plainFirst,
        ih (by simp) fun piece member => plain piece (List.mem_cons_of_mem _ member)]
      rfl

theorem join_split (separator : Char) (text : List Char) : join [separator] (split separator text) = text := by
  induction text with
  | nil => rfl
  | cons c text ih =>
    obtain ⟨piece, pieces, same⟩ := List.exists_cons_of_ne_nil (split_ne_nil separator text)
    rw [same] at ih
    by_cases here : c = separator
    · subst here
      rw [split_separator, same]
      simpa [join] using ih
    · obtain ⟨first, rest, before, after⟩ := split_cons here text
      rw [same] at before
      obtain ⟨rfl, rfl⟩ := List.cons.inj before
      rw [after]
      cases pieces <;> simpa [join] using ih

theorem split_eq_iff {text : List Char} {pieces : List (List Char)} : split separator text = pieces ↔
    pieces ≠ [] ∧ (∀ piece ∈ pieces, separator ∉ piece) ∧ join [separator] pieces = text := by
  constructor
  · rintro rfl
    exact ⟨split_ne_nil separator text, fun _ => not_mem_of_mem_split, join_split separator text⟩
  · rintro ⟨some, plain, rfl⟩
    exact split_join some plain

end Waymark.Text
