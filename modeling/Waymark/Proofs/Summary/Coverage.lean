import Waymark.Proofs.Json.Scan
import Waymark.Proofs.Rounding
import Waymark.Summary.Basic

/-! The coverage of a part of a whole is a number of tenths of a percent, and each of these numbers is
printed with one place and read back from there.
-/

set_option autoImplicit false

namespace Waymark

def tenths (n : Count) : Float := n.toFloat / 10

/-! How much a coverage can be -/

section
open Rounding

/-- The quotient of a part and its whole is at most one, up to a millionth or so. -/
theorem between_ratio {part whole : Count} (some : part ≠ 0) (inside : part ≤ whole) :
    Between (part.toFloat / whole.toFloat) (1 / 2 ^ 66) (1 + 4 / 1000000) := by
  have some' : whole ≠ 0 := by
    rintro rfl
    exact some (UInt64.le_zero_iff.1 inside)
  have one : (1 : ℚ) ≤ part.toNat := by
    exact_mod_cast Nat.pos_of_ne_zero fun zero => some (UInt64.toNat_inj.1 zero)
  have order : (part.toNat : ℚ) ≤ whole.toNat := by exact_mod_cast UInt64.le_iff_toNat_le.1 inside
  have limit : (whole.toNat : ℚ) ≤ 2 ^ 64 := by exact_mod_cast whole.toNat_lt.le
  have low : 1 / 2 ^ 65 ≤ part.toNat * (999999 / 1000000) / (whole.toNat * (1000001 / 1000000) : ℚ) := by
    rw [le_div_iff₀ (by linarith)]
    linarith
  have high : part.toNat * (1000001 / 1000000) / (whole.toNat * (999999 / 1000000) : ℚ) ≤ 1 + 25 / 10000000 := by
    rw [div_le_iff₀ (by linarith)]
    linarith
  have ratio := (between_ofCount some).div (between_ofCount some') (by linarith) (by linarith)
    (le_trans (by norm_num) low) (high.trans (by norm_num))
  exact ratio.mono (by linarith) (by linarith)

/-- A coverage is a number of tenths, from none of them to a thousand. -/
theorem coverage_tenths {documented total : Count} (part : documented ≤ total) :
    ∃ n, n ≤ 1000 ∧ coverage documented total = tenths n := by
  unfold coverage
  split
  · exact ⟨0, by decide, by decide +kernel⟩
  rename_i some'
  by_cases none : documented = 0
  · subst none
    obtain ⟨p, holds, -⟩ := between_ofCount some'
    rw [zero_div holds]
    exact ⟨0, by decide, by decide +kernel⟩
  have percent := (between_ratio none part).mul between_hundred (by norm_num) (by norm_num) (by norm_num) (by norm_num)
  have tenths := percent.mul between_ten (by norm_num) (by norm_num) (by norm_num) (by norm_num)
  have twice := tenths.mul between_two (by norm_num) (by norm_num) (by norm_num) (by norm_num)
  obtain ⟨p, holds, -, high⟩ := tenths
  obtain ⟨q, holds', -, high'⟩ := twice
  have small : documented.toFloat / total.toFloat * 100 * 10 < 9007199254740992 :=
    lt_of_value holds (lt_of_le_of_lt high (by norm_num))
  -- Twice the tenths are below 2001, so there are at most a thousand of them, rounded.
  have few := toUInt64_lt 2001 holds' (lt_of_le_of_lt high' (by norm_num)) (by decide)
  refine ⟨((documented.toFloat / total.toFloat * 100 * 10 * 2).toUInt64 + 1) / 2, ?_, ?_⟩
  · rw [UInt64.le_iff_toNat_le, UInt64.toNat_div, UInt64.toNat_add]
    have one : (1 : Count).toNat = 1 := rfl
    have two : (2 : Count).toNat = 2 := rfl
    have thousand : (1000 : Count).toNat = 1000 := rfl
    rw [one, two, thousand]
    omega
  · rw [nearestWhole, if_pos small]
    rfl

end

/-! Its text -/

open Json Text Shortest

def tenthsText (n : Nat) : List Char := Decimal.write (n / 10) ++ ['.', Decimal.digit (n % 10)]

def startsAt (b : Binary) (first : Int) : Bool :=
  let (exact, unit) := b.fraction (4 * b.significand) (-depth)
  let height := (first + depth).toNat
  10 ^ height ≤ exact / unit && exact / unit < 10 ^ (height + 1)

theorem leading_eq {b : Binary} {first : Int} (starts : startsAt b first = true) (deep : -depth ≤ first) :
    b.leading = first := by
  unfold startsAt at starts
  simp only [Bool.and_eq_true, decide_eq_true_eq] at starts
  have least := Decimal.lt_length_write starts.1
  have most := Decimal.length_write_le starts.2 (Nat.succ_pos _)
  unfold Binary.leading
  simp only
  omega

/-- What has to be computed for one number: where its digits start, that it is a positive number of the
usual kind, and its text. -/
def printsAt (first : Int) (n : Nat) : Bool :=
  let x := tenths (.ofNat n)
  let bits := x.toBits.toNat
  let b := Binary.ofFloat x
  startsAt b first && 2 ^ 52 ≤ bits && bits / 2 ^ 52 < 2047 &&
    scaledText ((b.search first 17).stripped 17) == tenthsText n

theorem floatText_of_printsAt {first : Int} {n : Nat} (prints : printsAt first n = true)
    (deep : -depth ≤ first) : floatText (tenths (.ofNat n)) = tenthsText n := by
  unfold printsAt at prints
  simp only [Bool.and_eq_true, decide_eq_true_eq, beq_iff_eq] at prints
  obtain ⟨⟨⟨starts, some⟩, finite⟩, text⟩ := prints
  have sign : (tenths (.ofNat n)).toBits.toNat >>> 63 ≠ 1 := by omega
  have magnitude : (tenths (.ofNat n)).toBits.toNat % (1 <<< 63) = (tenths (.ofNat n)).toBits.toNat :=
    Nat.mod_eq_of_lt (by omega)
  unfold floatText
  simp only [magnitude]
  rw [if_neg (by omega), if_neg sign, if_neg (by omega), Binary.shortest, leading_eq starts deep, text]
  rfl

theorem floatText_tenths {n : Nat} (part : n ≤ 1000) : floatText (tenths (.ofNat n)) = tenthsText n := by
  -- One case for every place where the first digit can stand.
  have none : floatText (tenths (.ofNat 0)) = tenthsText 0 := by decide +kernel
  have one : (List.range' 1 9).all (printsAt (-1)) = true := by decide +kernel
  have two : (List.range' 10 90).all (printsAt 0) = true := by decide +kernel
  -- A hundred numbers at a time, as all nine hundred at once take much memory.
  have three : ∀ hundreds, 1 ≤ hundreds → hundreds < 10 →
      (List.range' (100 * hundreds) 100).all (printsAt 1) = true := by
    intro hundreds low high
    interval_cases hundreds <;> decide +kernel
  have four : (List.range' 1000 1).all (printsAt 2) = true := by decide +kernel
  have found : ∀ {first : Int} {start count : Nat}, (List.range' start count).all (printsAt first) = true →
      -depth ≤ first → start ≤ n → n < start + count → floatText (tenths (.ofNat n)) = tenthsText n := by
    intro first start count all deep low high
    exact floatText_of_printsAt (List.all_eq_true.1 all n (List.mem_range'_1.2 ⟨low, high⟩)) deep
  rcases Nat.eq_zero_or_pos n with rfl | positive
  · exact none
  by_cases small : n < 10
  · exact found one (by decide) positive small
  by_cases less : n < 100
  · exact found two (by decide) (by omega) less
  by_cases below : n < 1000
  · exact found (three (n / 100) (by omega) (by omega)) (by decide) (by omega) (by omega)
  · exact found four (by decide) (by omega) (by omega)

theorem value_tenths {n : Nat} (fits : n < Count.limit) : Numeral.value
    ⟨false, Decimal.write (n / 10), [Decimal.digit (n % 10)], true, none⟩ = some (.float (tenths (.ofNat n))) := by
  have whole : Decimal.valueFrom 0 (Decimal.write (n / 10)) = n / 10 := Decimal.value_write _
  have all : Decimal.valueFrom (n / 10) [Decimal.digit (n % 10)] = n := by
    have last := Decimal.digitValue_digit (Nat.mod_lt n (by decide : 10 > 0))
    simp only [Decimal.valueFrom, List.foldl_cons, List.foldl_nil, last]
    omega
  have first : Numeral.absorb 0 (Decimal.write (n / 10)) = (n / 10, 0) := by
    rw [Token.absorb_eq (by rw [whole]; omega), whole]
  have second : Numeral.absorb (n / 10) [Decimal.digit (n % 10)] = (n, 0) := by
    rw [Token.absorb_eq (by rw [all]; exact fits), all]
  have ten : Float.ofScientific 1 false 1 = 10 := by decide +kernel
  have scaled : Numeral.scale (UInt64.ofNat n).toFloat (-1) = some (tenths (.ofNat n)) := by
    rw [Numeral.scale, if_pos (by decide), if_pos (by decide)]
    exact congrArg (fun power => some ((UInt64.ofNat n).toFloat / power)) ten
  simp only [Numeral.value, first, second, Numeral.toFloat, if_true]
  exact congrArg (Option.map _) scaled

theorem legible_tenths {n : Nat} (part : n ≤ 1000) :
    Token.Legible (tenths (.ofNat n)) (n / 10) [Decimal.digit (n % 10)] where
  text := floatText_tenths part
  digits c member := by
    rw [List.mem_singleton.1 member]
    exact Decimal.isDigit_digit (Nat.mod_lt n (by decide))
  nonempty := List.cons_ne_nil _ _
  value := value_tenths (by
    unfold Count.limit
    omega)

/-- A coverage that a scan can find: not more is documented than there is. -/
def IsCoverage (x : Float) : Prop := ∃ documented total, documented ≤ total ∧ x = coverage documented total

theorem IsCoverage.legible {x : Float} (h : IsCoverage x) :
    ∃ whole fraction, Token.Legible x whole fraction := by
  obtain ⟨documented, total, part, rfl⟩ := h
  obtain ⟨n, few, same⟩ := coverage_tenths part
  have legible := legible_tenths (UInt64.le_iff_toNat_le.1 few)
  rw [UInt64.ofNat_toNat] at legible
  rw [same]
  exact ⟨_, _, legible⟩

end Waymark
