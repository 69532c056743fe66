import Mathlib.Algebra.Group.Nat.Defs
import Waymark.Text.Decimal

/-! Decimal notation reads back: the digits of a number are digits, their value is the number, and a
number without leading zeros starts with zero only if it is zero.
-/

set_option autoImplicit false

namespace Waymark.Text.Decimal

variable {n width : Nat} {c : Char}

theorem isDigit_digit {v : Nat} (small : v < 10) : (digit v).isDigit = true := by
  have all : ∀ v : Fin 10, (digit v).isDigit = true := by decide
  exact all ⟨v, small⟩

theorem digitValue_digit {v : Nat} (small : v < 10) : digitValue (digit v) = v := by
  have all : ∀ v : Fin 10, digitValue (digit v) = v := by decide
  exact all ⟨v, small⟩

theorem isDigit_of_mem_write (h : c ∈ write n) : c.isDigit = true := by
  induction n using write.induct with
  | case1 n small =>
    rw [write, if_pos small, List.mem_singleton] at h
    subst h
    exact isDigit_digit small
  | case2 n large ih =>
    rw [write, if_neg large, List.mem_append, List.mem_singleton] at h
    rcases h with h | rfl
    · exact ih h
    · exact isDigit_digit (by omega)

theorem write_ne_nil (n : Nat) : write n ≠ [] := by
  rw [write]
  split <;> simp

theorem valueFrom_append (start : Nat) (a b : List Char) :
    valueFrom start (a ++ b) = valueFrom (valueFrom start a) b := List.foldl_append

@[simp] theorem value_write (n : Nat) : value (write n) = n := by
  induction n using write.induct with
  | case1 n small =>
    rw [write, if_pos small]
    simp [value, valueFrom, digitValue_digit small]
  | case2 n large ih =>
    rw [write, if_neg large, value, valueFrom_append, ← value, ih]
    have last : n % 10 < 10 := by omega
    simp only [valueFrom, List.foldl_cons, List.foldl_nil, digitValue_digit last]
    omega

theorem length_write_le (small : n < 10 ^ width) (some : 0 < width) : (write n).length ≤ width := by
  induction n using write.induct generalizing width with
  | case1 n small' =>
    rw [write, if_pos small']
    exact some
  | case2 n large ih =>
    rw [write, if_neg large, List.length_append, List.length_singleton]
    obtain ⟨less, rfl⟩ : ∃ less, width = less + 1 := ⟨width - 1, by omega⟩
    rw [Nat.pow_succ] at small
    -- A number of at least two digits needs a width of at least two.
    have more : 0 < less := by
      apply Nat.pos_of_ne_zero
      rintro rfl
      omega
    have := ih (by omega : n / 10 < 10 ^ less) more
    omega

theorem lt_length_write (large : 10 ^ width ≤ n) : width < (write n).length := by
  induction n using write.induct generalizing width with
  | case1 n small =>
    rw [write, if_pos small, List.length_singleton]
    rcases Nat.eq_zero_or_pos width with rfl | some
    · decide
    · have more : 10 ^ 1 ≤ 10 ^ width := Nat.pow_le_pow_right (by decide) some
      omega
  | case2 n large' ih =>
    rw [write, if_neg large', List.length_append, List.length_singleton]
    cases width with
    | zero => omega
    | succ less =>
      rw [Nat.pow_succ] at large
      have := ih (by omega : 10 ^ less ≤ n / 10)
      omega

theorem length_writePadded (small : n < 10 ^ width) (some : 0 < width) :
    (writePadded width n).length = width := by
  have := length_write_le small some
  simp only [writePadded, List.length_append, List.length_replicate]
  omega

theorem isDigit_of_mem_writePadded (h : c ∈ writePadded width n) : c.isDigit = true := by
  rw [writePadded, List.mem_append] at h
  rcases h with h | h
  · rw [List.eq_of_mem_replicate h]
    rfl
  · exact isDigit_of_mem_write h

theorem writePadded_ne_nil (width n : Nat) : writePadded width n ≠ [] := by
  simp [writePadded, write_ne_nil]

theorem valueFrom_zeros (count : Nat) : valueFrom 0 (List.replicate count '0') = 0 := by
  induction count with
  | zero => rfl
  | succ count ih =>
    rw [List.replicate_succ]
    exact ih

@[simp] theorem value_writePadded (width n : Nat) : value (writePadded width n) = n := by
  rw [writePadded, value, valueFrom_append, valueFrom_zeros, ← value, value_write]

theorem write_zero_head {rest : List Char} (h : write n = '0' :: rest) : n = 0 ∧ rest = [] := by
  induction n using write.induct generalizing rest with
  | case1 n small =>
    rw [write, if_pos small] at h
    obtain ⟨first, rfl⟩ := List.cons.inj h
    have zero := congrArg digitValue first
    rw [digitValue_digit small] at zero
    exact ⟨zero, rfl⟩
  | case2 n large ih =>
    rw [write, if_neg large] at h
    cases digits : write (n / 10) with
    | nil => exact absurd digits (write_ne_nil _)
    | cons first more =>
      rw [digits, List.cons_append] at h
      obtain ⟨rfl, -⟩ := List.cons.inj h
      have := (ih digits).1
      omega

structure IsNumeral (digits : List Char) (n : Nat) : Prop where
  some : digits ≠ []
  digit : ∀ c ∈ digits, c.isDigit = true
  value : value digits = n

theorem isNumeral_write (n : Nat) : IsNumeral (write n) n :=
  ⟨write_ne_nil n, fun _ => isDigit_of_mem_write, value_write n⟩

theorem read?_eq_some_iff {digits : List Char} : read? digits = some n ↔ IsNumeral digits n := by
  rw [read?]
  split
  · rename_i unfit
    rw [Bool.or_eq_true, List.isEmpty_iff, Bool.not_eq_true', List.all_eq_false] at unfit
    refine ⟨(nomatch ·), fun numeral => ?_⟩
    rcases unfit with empty | ⟨c, member, other⟩
    · exact absurd empty numeral.some
    · exact absurd (numeral.digit c member) other
  · rename_i fit
    rw [Bool.or_eq_true, not_or, List.isEmpty_iff, Bool.not_eq_true', Bool.not_eq_false, List.all_eq_true] at fit
    rw [Option.some.injEq]
    exact ⟨fun same => ⟨fit.1, fit.2, same⟩, fun numeral => numeral.value⟩

theorem read?_write (n : Nat) : read? (write n) = some n := read?_eq_some_iff.2 (isNumeral_write n)

theorem takeWhile_append {digits rest : List Char} (all : ∀ c ∈ digits, c.isDigit = true)
    (ends : ∀ c ∈ rest.head?, c.isDigit = false) :
    (digits ++ rest).takeWhile Char.isDigit = digits ∧
      (digits ++ rest).dropWhile Char.isDigit = rest := by
  rw [List.takeWhile_append_of_pos all, List.dropWhile_append_of_pos all]
  cases rest with
  | nil => simp
  | cons c rest =>
    have := ends c rfl
    simp [this]

end Waymark.Text.Decimal
