import Mathlib.Algebra.Group.Nat.Defs
import Waymark.SessionId

/-! Identifiers of sessions are read back from their texts. -/

set_option autoImplicit false

namespace Waymark.SessionId

def digit (value : Nat) : Char := digits.getD value '0'

theorem digitValue?_digit {value : Nat} (small : value < 32) : digitValue? (digit value) = some value := by
  have all : ∀ value : Fin 32, digitValue? (digit value) = some value.val := by decide
  exact all ⟨value, small⟩

theorem utf8Size_digit {value : Nat} (small : value < 32) : (digit value).utf8Size = 1 := by
  have all : ∀ value : Fin 32, (digit value).utf8Size = 1 := by decide
  exact all ⟨value, small⟩

theorem readDigits_append {start next : Nat} {front rest : List Char}
    (read : readDigits start front = some next) : readDigits start (front ++ rest) = readDigits next rest := by
  induction front generalizing start with
  | nil =>
    cases read
    rfl
  | cons c front ih =>
    rw [readDigits, Option.bind_eq_some_iff] at read
    obtain ⟨value, known, read⟩ := read
    rw [List.cons_append, readDigits, known, Option.bind_some]
    exact ih read

theorem readDigits_writeDigits (width n : Nat) :
    readDigits 0 (writeDigits width n) = some (n % 32 ^ width) := by
  induction width generalizing n with
  | zero => rw [writeDigits, readDigits, Nat.pow_zero, Nat.mod_one]
  | succ width ih =>
    have last : digitValue? (digits.getD (n % 32) '0') = some (n % 32) :=
      digitValue?_digit (Nat.mod_lt n (by decide))
    rw [writeDigits, readDigits_append (ih (n / 32)), readDigits, last, Option.bind_some, readDigits]
    -- The digits in front of the last one are those of the quotient.
    have parts := Nat.mod_mul (x := n) (a := 32) (b := 32 ^ width)
    rw [Nat.pow_succ, Nat.mul_comm (32 ^ width) 32, parts]
    congr 1
    omega

theorem utf8ByteSize_writeDigits (width n : Nat) :
    (String.ofList (writeDigits width n)).utf8ByteSize = width := by
  induction width generalizing n with
  | zero => rfl
  | succ width ih =>
    have last : (digits.getD (n % 32) '0').utf8Size = 1 := utf8Size_digit (Nat.mod_lt n (by decide))
    rw [writeDigits, String.ofList_append, String.utf8ByteSize_append, ih, ← String.singleton_eq_ofList,
      String.utf8ByteSize_singleton, last]

theorem read_toText (id : SessionId) : read id.toText = .ok id := by
  have size : id.toText.utf8ByteSize = width :=
    utf8ByteSize_writeDigits width id.value
  have digits : readDigits 0 id.toText.toList = some id.value.val := by
    have below : id.value.val < 32 ^ width := Nat.lt_of_lt_of_le id.value.isLt (by decide)
    rw [toText, String.toList_ofList, text, readDigits_writeDigits, Nat.mod_eq_of_lt below]
  have whole : ofNat id.value.val = id := by
    cases id
    simp [ofNat]
  rw [read, if_neg (by simp [size]), digits, Option.elim_some, whole]

end Waymark.SessionId
