import Waymark.Proofs.Text.Lines

/-! Trimming a text: blanks around it do not count, and what is left is trimmed. -/

set_option autoImplicit false

namespace Waymark.Text

variable {drop : Char → Bool} {before after text : List Char}

theorem trim_padded (text : List Char) (blank : ∀ c ∈ before, isBlank c = true)
    (blank' : ∀ c ∈ after, isBlank c = true) : trim (before ++ text ++ after) = trim text := by
  have front : trim (before ++ text) = trim text := by
    rw [trim, trimStart, List.dropWhile_append_of_pos blank]
    rfl
  induction after using List.reverseRecOn with
  | nil => rw [List.append_nil, front]
  | append_singleton after c ih =>
    have last := blank' c (List.mem_append_right _ List.mem_cons_self)
    rw [← List.append_assoc, trim_concat _ last]
    exact ih fun d among => blank' d (List.mem_append_left _ among)

theorem trim_spec (text : List Char) : ∃ before after, text = before ++ trim text ++ after ∧
    (∀ c ∈ before, isBlank c = true) ∧ ∀ c ∈ after, isBlank c = true := by
  obtain ⟨after, same, blank⟩ := trimEnd_spec (trimStart text)
  refine ⟨text.takeWhile isBlank, after, ?_, fun c => List.all_eq_true.1 List.all_takeWhile c, blank⟩
  rw [trim, List.append_assoc, ← same, trimStart, List.takeWhile_append_dropWhile]

theorem trim_trim (text : List Char) : trim (trim text) = trim text := by
  obtain ⟨before, after, same, blank, blank'⟩ := trim_spec text
  have padded := trim_padded (trim text) blank blank'
  rw [← same] at padded
  exact padded.symm

theorem trim_eq_nil_iff : trim text = [] ↔ ∀ c ∈ text, isBlank c = true := by
  constructor
  · intro empty
    obtain ⟨before, after, same, blank, blank'⟩ := trim_spec text
    rw [empty, List.append_nil] at same
    rw [same]
    intro c member
    exact (List.mem_append.1 member).elim (blank c) (blank' c)
  · intro blank
    have padded : trim (text ++ [] ++ []) = trim [] := trim_padded [] blank (by simp)
    rwa [List.append_nil, List.append_nil] at padded

theorem countP_dropWhileEnd (visible : ∀ c, drop c = true → isBlank c = false) (text : List Char) :
    (dropWhileEnd drop text).countP isBlank = text.countP isBlank := by
  obtain ⟨dropped, same, are⟩ := dropWhileEnd_spec drop text
  have none : dropped.countP isBlank = 0 := by
    rw [List.countP_eq_zero]
    intro c among
    rw [visible c (are c among)]
    exact Bool.false_ne_true
  conv => rhs; rw [same]
  rw [List.countP_append, none, Nat.add_zero]

/-- Where something is left after trimming, the blanks in front of it are those that trimming at the end leaves, and
the other way round. -/
theorem trim_ends (some : trim text ≠ []) : ∃ before after,
    (∀ c ∈ before, isBlank c = true) ∧ (∀ c ∈ after, isBlank c = true) ∧ text = before ++ trim text ++ after ∧
    trimStart text = trim text ++ after ∧ trimEnd text = before ++ trim text := by
  obtain ⟨after, start, blank⟩ := trimEnd_spec (trimStart text)
  have whole : text = text.takeWhile isBlank ++ trimStart text := List.takeWhile_append_dropWhile.symm
  refine ⟨text.takeWhile isBlank, after, fun c => List.all_eq_true.1 List.all_takeWhile c, blank, ?_, start, ?_⟩
  · rw [List.append_assoc, trim, ← start]
    exact whole
  · conv => lhs; rw [whole]
    rw [trimEnd, dropWhileEnd_append, if_neg]
    · rfl
    · exact fun empty => some (List.isEmpty_iff.1 empty)

theorem trim_eq_self_of_countP (same : (trim text).countP isBlank = text.countP isBlank) : trim text = text := by
  obtain ⟨before, after, parts, blank, blank'⟩ := trim_spec text
  have counted := congrArg (·.countP isBlank) parts
  simp only [List.countP_append, List.countP_eq_length.2 blank, List.countP_eq_length.2 blank'] at counted
  obtain rfl : before = [] := List.length_eq_zero_iff.1 (by omega)
  obtain rfl : after = [] := List.length_eq_zero_iff.1 (by omega)
  simpa using parts.symm

theorem trimStart_of_trim (bare : trim text = text) : trimStart text = text := by
  have suffix : trimStart text <:+ text := List.dropWhile_suffix _
  have shorter : trim text <+: trimStart text := List.rdropWhile_prefix _ _
  have length := shorter.length_le
  rw [bare] at length
  exact suffix.eq_of_length (Nat.le_antisymm suffix.length_le length)

theorem trimEnd_of_trim (bare : trim text = text) : trimEnd text = text := by
  rwa [trim, trimStart_of_trim bare] at bare

end Waymark.Text
