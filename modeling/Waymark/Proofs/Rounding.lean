import Mathlib
import Waymark.Count

/-! Arithmetic on positive floats as arithmetic on rational numbers. A result is the exact one up to one
unit of its last place; the direction in which it was rounded plays no part.
-/

set_option autoImplicit false

namespace Waymark.Rounding

open Float.Model Float.Model.UnpackedFloat

/-- A positive float whose significand is full. -/
structure Parts where
  significand : Nat
  exponent : Int
  full : 2 ^ 52 ≤ significand
  short : significand < 2 ^ 53
  low : -1074 ≤ exponent
  high : exponent ≤ 971

namespace Parts

variable (p : Parts)

theorem positive : 0 < p.significand := Nat.lt_of_lt_of_le (by decide) p.full

def unpacked : UnpackedFloat := .finite .positive p.significand p.exponent p.positive

def value : ℚ := p.significand * 2 ^ p.exponent

theorem sign_packComponents (e : BitVec 11) (m : BitVec 52) :
    Sign.ofBitVec (unpackSign (packComponents Format.binary64 .positive e m)) = .positive := by
  -- The sign is above the exponent and the significand.
  simp only [unpackSign, packComponents, BitVec.extractLsb]
  rw [BitVec.extractLsb'_append_eq_of_le (by omega), BitVec.extractLsb'_append_eq_of_le (by omega)]
  rfl

theorem log2_significand : p.significand.log2 = 52 :=
  (Nat.log2_eq_iff (Nat.ne_of_gt p.positive)).2 ⟨p.full, p.short⟩

/-- The exponent as it is packed, with the bias of the format and the digits of the significand. -/
def biased : Nat := (p.exponent + 1075).toNat

theorem biased_bounds : 0 < p.biased ∧ p.biased < 2047 := by
  have low := p.low
  have high := p.high
  unfold biased
  omega

theorem packed : UnpackedFloat.pack Format.binary64 p.unpacked =
    packComponents Format.binary64 .positive (BitVec.ofNat 11 p.biased) (BitVec.ofNat 52 p.significand) := by
  have exponent : (p.exponent + (Format.binary64.exponentBias : Int) +
      (Format.binary64.mantissaBitsWithoutImplicit : Int)).toNat = p.biased := by
    simp only [Format.exponentBias, biased]
    norm_num
    omega
  obtain ⟨-, most⟩ := p.biased_bounds
  simp only [unpacked, UnpackedFloat.pack, exponent, p.log2_significand, Format.mantissaBits]
  rw [if_neg (by norm_num; omega), if_pos (by norm_num)]

theorem toNat_biased : (BitVec.ofNat 11 p.biased).toNat = p.biased := by
  obtain ⟨-, most⟩ := p.biased_bounds
  rw [BitVec.toNat_ofNat, Nat.mod_eq_of_lt (by omega)]

/-- The first digit is not stored, and is put before the others when they are read. -/
theorem toNat_significand : (1#1 ++ BitVec.ofNat 52 p.significand).toNat = p.significand := by
  have full := p.full
  have short := p.short
  rw [BitVec.toNat_append, ← Nat.shiftLeft_add_eq_or_of_lt (BitVec.isLt _), BitVec.toNat_ofNat,
    BitVec.toNat_ofNat, Nat.shiftLeft_eq]
  omega

theorem unpack_pack : (Float.Model.pack p.unpacked).unpack = p.unpacked := by
  obtain ⟨least, most⟩ := p.biased_bounds
  have notTop : BitVec.ofNat 11 p.biased ≠ -1#11 := by
    intro same
    have top : p.biased = 2047 := by rw [← p.toNat_biased, same]; rfl
    omega
  have notZero : BitVec.ofNat 11 p.biased ≠ 0#11 := by
    intro same
    have zero : p.biased = 0 := by rw [← p.toNat_biased, same]; rfl
    omega
  have exponent : ((p.biased : Int) -
      ((Format.binary64.exponentBias : Int) + (Format.binary64.mantissaBitsWithoutImplicit : Int))) = p.exponent := by
    have low := p.low
    simp only [Format.exponentBias, biased]
    norm_num
    omega
  have unpacking : (Float.Model.pack p.unpacked).unpack =
      UnpackedFloat.unpack Format.binary64 (UnpackedFloat.pack Format.binary64 p.unpacked) := rfl
  rw [unpacking, packed]
  simp only [UnpackedFloat.unpack, unpackExponent_packComponents, unpackMantissa_packComponents,
    sign_packComponents]
  rw [if_neg notTop, if_neg notZero]
  simp only [unpacked, toNat_significand, toNat_biased, exponent]

theorem unit_pos (e : Int) : (0 : ℚ) < 2 ^ e := zpow_pos (by norm_num) e

theorem value_pos : 0 < p.value := mul_pos (by exact_mod_cast p.positive) (unit_pos _)

end Parts

/-! Rounding to a full significand -/

theorem shift_mantissa (extended : ExtendedMantissa) (n : Nat) :
    (extended >>> n).mantissa = extended.mantissa / 2 ^ n := by
  induction n with
  | zero => exact (Nat.div_one _).symm
  | succ n ih =>
    have last : (extended >>> (n + 1)).mantissa = (extended >>> n).mantissa / 2 := rfl
    rw [last, ih, Nat.div_div_eq_div_mul, Nat.pow_succ]

theorem mantissa_of (m : Nat) (accuracy : Accuracy) :
    (ExtendedMantissa.ofMantissaAndAccuracy m accuracy).mantissa = m := by
  cases accuracy with
  | exact => rfl
  | inexact half => cases half <;> rfl

theorem roundedMantissa_cases (extended : ExtendedMantissa) :
    extended.roundedMantissa = extended.mantissa ∨ extended.roundedMantissa = extended.mantissa + 1 := by
  obtain ⟨m, roundBit, stickyBit⟩ := extended
  cases roundBit <;> cases stickyBit
  · exact .inl rfl
  · exact .inl rfl
  · -- A tie goes to the even neighbour.
    have tie : (ExtendedMantissa.mk m true false).roundedMantissa = m + m % 2 := rfl
    have same : (ExtendedMantissa.mk m true false).mantissa = m := rfl
    rw [tie, same]
    omega
  · exact .inr rfl

theorem shiftToTarget {m n : Nat} {e : Int} (accuracy : Accuracy)
    (target : Format.binary64.targetExponent (totalExponent m e) = e + n) :
    shiftToTargetExponent Format.binary64 m e accuracy =
      (ExtendedMantissa.ofMantissaAndAccuracy m accuracy >>> n, e + n) := by
  have amount : (e + (n : Int) - e).toNat = n := by omega
  simp only [shiftToTargetExponent, target, shiftToExponent, amount]

theorem target_eq {m n : Nat} {e : Int} (digits : m.log2 = 52 + n) (low : -1074 ≤ e + n) :
    Format.binary64.targetExponent (totalExponent m e) = e + n := by
  simp only [Format.targetExponent, totalExponent, digits, Format.mantissaBits, Format.minExponent]
  norm_num
  omega

variable {m n : Nat} {e : Int}

theorem cut_bounds (digits : m.log2 = 52 + n) : 2 ^ 52 ≤ m / 2 ^ n ∧ m / 2 ^ n < 2 ^ 53 := by
  have some : m ≠ 0 := by
    rintro rfl
    rw [Nat.log2_zero] at digits
    omega
  obtain ⟨least, most⟩ := (Nat.log2_eq_iff some).1 digits
  constructor
  · rw [Nat.le_div_iff_mul_le (Nat.two_pow_pos n), ← Nat.pow_add]
    exact least
  · rw [Nat.div_lt_iff_lt_mul (Nat.two_pow_pos n), ← Nat.pow_add]
    calc m < 2 ^ (52 + n + 1) := most
      _ = 2 ^ (53 + n) := by congr 1; omega

theorem roundWithAccuracy_eq {extended last : ExtendedMantissa} {e' e'' : Int} {accuracy : Accuracy}
    {p : Parts} (cut : shiftToTargetExponent Format.binary64 m e accuracy = (extended, e'))
    (again : shiftToTargetExponent Format.binary64 extended.roundedMantissa e' .exact = (last, e''))
    (significand : last.mantissa = p.significand) (exponent : e'' = p.exponent) :
    roundWithAccuracy Format.binary64 .positive m e accuracy = p.unpacked := by
  have notZero : p.significand ≠ 0 := Nat.ne_of_gt p.positive
  simp only [roundWithAccuracy, cut, again, significand, exponent, dif_neg notZero, Parts.unpacked]

theorem rounded (accuracy : Accuracy) (digits : m.log2 = 52 + n) (low : -1074 ≤ e + n) (high : e + n ≤ 970) :
    ∃ p : Parts, roundWithAccuracy Format.binary64 .positive m e accuracy = p.unpacked ∧
      ((m / 2 ^ n : Nat) : ℚ) * 2 ^ (e + n) ≤ p.value ∧
      p.value ≤ ((m / 2 ^ n : Nat) + 1 : ℚ) * 2 ^ (e + n) := by
  obtain ⟨full, short⟩ := cut_bounds digits
  have unit := Parts.unit_pos (e + n)
  have cut := shiftToTarget accuracy (target_eq digits low)
  have near := roundedMantissa_cases (ExtendedMantissa.ofMantissaAndAccuracy m accuracy >>> n)
  rw [shift_mantissa, mantissa_of] at near
  by_cases fits : (ExtendedMantissa.ofMantissaAndAccuracy m accuracy >>> n).roundedMantissa < 2 ^ 53
  · have full' : 2 ^ 52 ≤ (ExtendedMantissa.ofMantissaAndAccuracy m accuracy >>> n).roundedMantissa := by omega
    have digits' := (Nat.log2_eq_iff (by omega)).2 ⟨full', fits⟩
    have again := shiftToTarget (n := 0) .exact (target_eq digits' (by simpa using low))
    refine ⟨⟨_, e + n, full', fits, low, by omega⟩, roundWithAccuracy_eq cut again ?_ ?_, ?_, ?_⟩
    · rw [shift_mantissa, mantissa_of, Nat.pow_zero, Nat.div_one]
    · simp
    · apply mul_le_mul_of_nonneg_right _ unit.le
      rcases near with same | more
      · exact_mod_cast same.ge
      · exact_mod_cast (Nat.le_succ _).trans more.ge
    · apply mul_le_mul_of_nonneg_right _ unit.le
      rcases near with same | more
      · exact_mod_cast same.le.trans (Nat.le_succ _)
      · exact_mod_cast more.le
  · -- The sum takes one digit more, and its last digit is zero.
    have carried : (ExtendedMantissa.ofMantissaAndAccuracy m accuracy >>> n).roundedMantissa = 2 ^ 53 := by omega
    have again := shiftToTarget (n := 1) .exact (target_eq (m := 2 ^ 53) (e := e + n) (by decide) (by omega))
    rw [← carried] at again
    have value : ((2 ^ 52 : Nat) : ℚ) * 2 ^ (e + n + 1) = 2 ^ 53 * 2 ^ (e + n) := by
      rw [zpow_add₀ (by norm_num)]
      push_cast
      ring
    refine ⟨⟨2 ^ 52, e + n + 1, by decide, by decide, by omega, by omega⟩,
      roundWithAccuracy_eq cut again ?_ ?_, ?_, ?_⟩
    · rw [shift_mantissa, mantissa_of, carried]
      rfl
    · simp
    · rw [Parts.value, value]
      apply mul_le_mul_of_nonneg_right _ unit.le
      exact_mod_cast (by omega : m / 2 ^ n ≤ 2 ^ 53)
    · rw [Parts.value, value]
      apply mul_le_mul_of_nonneg_right _ unit.le
      exact_mod_cast (by omega : 2 ^ 53 ≤ m / 2 ^ n + 1)

/-! Results near the exact ones -/

/-- The unit of the last place of a full significand that starts with one. -/
def precision : ℚ := 1 / 2 ^ 52

def Near (exact value : ℚ) : Prop :=
  exact * (1 - precision) ≤ value ∧ value ≤ exact * (1 + precision)

/-- Neither as small nor as large that a significand would not be full. -/
def Moderate (exact : ℚ) : Prop := (2 : ℚ) ^ (-200 : Int) ≤ exact ∧ exact ≤ (2 : ℚ) ^ (200 : Int)

/-- Cutting digits off a significand keeps the exact value between it and its successor. -/
theorem cut_between {exact : ℚ} (n : Nat) (least : (m : ℚ) * 2 ^ e ≤ exact) (most : exact < (m + 1 : ℚ) * 2 ^ e) :
    ((m / 2 ^ n : Nat) : ℚ) * 2 ^ (e + n) ≤ exact ∧ exact < ((m / 2 ^ n : Nat) + 1 : ℚ) * 2 ^ (e + n) := by
  have unit := Parts.unit_pos e
  have shifted : (2 : ℚ) ^ (e + n) = 2 ^ n * 2 ^ e := by
    rw [zpow_add₀ (by norm_num), zpow_natCast, mul_comm]
  have cut : ((m / 2 ^ n : Nat) : ℚ) * 2 ^ n ≤ m := by exact_mod_cast Nat.div_mul_le_self m (2 ^ n)
  have next : (m + 1 : ℚ) ≤ ((m / 2 ^ n : Nat) + 1) * 2 ^ n := by
    have after : m + 1 ≤ (m / 2 ^ n + 1) * 2 ^ n := Nat.lt_div_mul_add (Nat.two_pow_pos n) |>.trans_eq (by ring)
    exact_mod_cast after
  rw [shifted, ← mul_assoc, ← mul_assoc]
  constructor
  · calc ((m / 2 ^ n : Nat) : ℚ) * 2 ^ n * 2 ^ e ≤ m * 2 ^ e := mul_le_mul_of_nonneg_right cut unit.le
      _ ≤ exact := least
  · calc exact < (m + 1) * 2 ^ e := most
      _ ≤ ((m / 2 ^ n : Nat) + 1) * 2 ^ n * 2 ^ e := mul_le_mul_of_nonneg_right next unit.le

theorem Moderate.place {exact : ℚ} (moderate : Moderate exact) (least : 2 ^ 52 * 2 ^ e ≤ exact)
    (most : exact < 2 ^ 53 * 2 ^ e) : -1074 ≤ e ∧ e ≤ 970 := by
  have low : (2 : ℚ) ^ (-200 : Int) < 2 ^ (53 + e) := by
    rw [zpow_add₀ (by norm_num)]
    exact moderate.1.trans_lt (by exact_mod_cast most)
  have high : (2 : ℚ) ^ (52 + e) ≤ 2 ^ (200 : Int) := by
    rw [zpow_add₀ (by norm_num)]
    exact le_trans (by exact_mod_cast least) moderate.2
  have atLeast := (zpow_lt_zpow_iff_right₀ (by norm_num)).1 low
  have atMost := (zpow_le_zpow_iff_right₀ (by norm_num)).1 high
  omega

theorem rounded_near {exact : ℚ} (accuracy : Accuracy) (full : 2 ^ 52 ≤ m) (least : (m : ℚ) * 2 ^ e ≤ exact)
    (most : exact < (m + 1 : ℚ) * 2 ^ e) (moderate : Moderate exact) :
    ∃ p : Parts, roundWithAccuracy Format.binary64 .positive m e accuracy = p.unpacked ∧
      Near exact p.value := by
  obtain ⟨n, digits⟩ : ∃ n, m.log2 = 52 + n := ⟨m.log2 - 52, by
    have := (Nat.le_log2 (by omega)).2 full
    omega⟩
  have unit := Parts.unit_pos (e + n)
  obtain ⟨below, above⟩ := cut_between n least most
  obtain ⟨first, last⟩ := cut_bounds digits
  have filled : (2 ^ 52 : ℚ) * 2 ^ (e + n) ≤ exact :=
    le_trans (mul_le_mul_of_nonneg_right (by exact_mod_cast first) unit.le) below
  have short : exact < (2 ^ 53 : ℚ) * 2 ^ (e + n) :=
    lt_of_lt_of_le above (mul_le_mul_of_nonneg_right (by exact_mod_cast last) unit.le)
  obtain ⟨low, high⟩ := moderate.place filled short
  obtain ⟨p, result, atLeast, atMost⟩ := rounded accuracy digits low high
  -- One unit of the last place is at most the precision of the exact value, since its significand is full.
  have small : (2 : ℚ) ^ (e + n) ≤ exact * precision := by
    rw [precision]
    linarith
  refine ⟨p, result, ?_, ?_⟩ <;> linarith

/-! Operations -/

def Holds (x : Float) (p : Parts) : Prop := x.toModel.unpack = p.unpacked

variable {x y : Float} {p q : Parts}

theorem holds_of_packed {u : UnpackedFloat} (same : x.toModel = Float.Model.pack u) (result : u = p.unpacked) :
    Holds x p := by
  rw [Holds, same, result]
  exact p.unpack_pack

theorem mul_near (hx : Holds x p) (hy : Holds y q) (moderate : Moderate (p.value * q.value)) :
    ∃ product : Parts, Holds (x * y) product ∧ Near (p.value * q.value) product.value := by
  have full : 2 ^ 52 ≤ p.significand * q.significand :=
    p.full.trans (Nat.le_mul_of_pos_right _ q.positive)
  have same : ((p.significand * q.significand : Nat) : ℚ) * 2 ^ (p.exponent + q.exponent) = p.value * q.value := by
    rw [zpow_add₀ (by norm_num), Parts.value, Parts.value]
    push_cast
    ring
  have next : p.value * q.value < ((p.significand * q.significand : Nat) + 1 : ℚ) * 2 ^ (p.exponent + q.exponent) := by
    rw [← same]
    have unit := Parts.unit_pos (p.exponent + q.exponent)
    linarith
  obtain ⟨product, result, near⟩ := rounded_near .exact full same.le next moderate
  refine ⟨product, holds_of_packed (u := UnpackedFloat.mul Format.binary64 p.unpacked q.unpacked) ?_ result, near⟩
  rw [← hx, ← hy]
  rfl

theorem ofCount_near (n : Count) (some : n ≠ 0) : ∃ p : Parts, Holds n.toFloat p ∧ Near n.toNat p.value := by
  have positive : 0 < n.toNat := Nat.pos_of_ne_zero fun zero => some (UInt64.toNat_inj.1 zero)
  obtain ⟨least, most⟩ := (Nat.log2_eq_iff (by omega)).1 (rfl : n.toNat.log2 = n.toNat.log2)
  have digits : n.toNat.log2 < 64 := (Nat.log2_lt (by omega)).2 n.toNat_lt
  -- The significand is filled up from below where it is not full.
  obtain ⟨fill, filled⟩ : ∃ fill, fill = 52 - n.toNat.log2 := ⟨_, rfl⟩
  have target : (-Format.binary64.targetExponent (totalExponent n.toNat 0)).toNat = fill := by
    simp only [Format.targetExponent, totalExponent, Format.mantissaBits, Format.minExponent]
    norm_num
    omega
  have full : 2 ^ 52 ≤ n.toNat * 2 ^ fill := by
    calc 2 ^ 52 ≤ 2 ^ (n.toNat.log2 + fill) := Nat.pow_le_pow_right (by decide) (by omega)
      _ = 2 ^ n.toNat.log2 * 2 ^ fill := Nat.pow_add ..
      _ ≤ n.toNat * 2 ^ fill := Nat.mul_le_mul_right _ least
  have same : ((n.toNat * 2 ^ fill : Nat) : ℚ) * 2 ^ (-fill : Int) = n.toNat := by
    rw [zpow_neg, zpow_natCast]
    push_cast
    field_simp
  have next : (n.toNat : ℚ) < ((n.toNat * 2 ^ fill : Nat) + 1 : ℚ) * 2 ^ (-fill : Int) := by
    have unit := Parts.unit_pos (-fill)
    rw [add_mul, same]
    linarith
  have moderate : Moderate n.toNat := by
    have one : (1 : ℚ) ≤ n.toNat := by exact_mod_cast positive
    have limit : (n.toNat : ℚ) ≤ 2 ^ 64 := by exact_mod_cast n.toNat_lt.le
    constructor
    · exact le_trans (by norm_num) one
    · exact limit.trans (by norm_num)
  obtain ⟨p, result, near⟩ := rounded_near .exact full same.le next moderate
  refine ⟨p, holds_of_packed (u := .ofUInt64 Format.binary64 n) rfl ?_, near⟩
  have order : compare (n.toNat : Int) 0 = .gt := Int.compare_eq_gt.2 (by omega)
  simp only [UnpackedFloat.ofUInt64, UnpackedFloat.ofNat, UnpackedFloat.ofInt, UnpackedFloat.normalize, order,
    Int.toNat_natCast, UnpackedFloat.round, decreaseExponent, zero_sub, target, Nat.shiftLeft_eq]
  exact result

theorem value_div : p.value / q.value =
    (p.significand / q.significand : ℚ) * 2 ^ (p.exponent - q.exponent) := by
  have unit := Parts.unit_pos q.exponent
  rw [Parts.value, Parts.value, zpow_sub₀ (by norm_num)]
  field_simp

theorem exponents_close (moderate : Moderate (p.value / q.value)) : -202 ≤ p.exponent - q.exponent := by
  have positive : (0 : ℚ) < q.significand := by exact_mod_cast q.positive
  have ratio : (p.significand / q.significand : ℚ) ≤ 2 := by
    have short := p.short
    have full := q.full
    rw [div_le_iff₀ positive]
    exact_mod_cast (by omega : p.significand ≤ 2 * q.significand)
  have power : (2 : ℚ) ^ (-200 : Int) ≤ 2 ^ (1 + (p.exponent - q.exponent)) := by
    rw [zpow_add₀ (by norm_num)]
    calc (2 : ℚ) ^ (-200 : Int) ≤ p.value / q.value := moderate.1
      _ = (p.significand / q.significand : ℚ) * 2 ^ (p.exponent - q.exponent) := value_div
      _ ≤ 2 ^ (1 : Int) * 2 ^ (p.exponent - q.exponent) :=
        mul_le_mul_of_nonneg_right (by simpa using ratio) (Parts.unit_pos _).le
  have := (zpow_le_zpow_iff_right₀ (by norm_num)).1 power
  omega

theorem div_bounds (a b : Nat) : ((a / b : Nat) : ℚ) ≤ a / b ∧ (a / b : ℚ) < (a / b : Nat) + 1 := by
  rw [← Nat.floor_div_eq_div (K := ℚ) a b]
  exact ⟨Nat.floor_le (by positivity), Nat.lt_floor_add_one _⟩

/-- The dividend is shifted so far that the quotient has a full significand, and what remains goes into the
rounding. -/
theorem div_near (hx : Holds x p) (hy : Holds y q) (moderate : Moderate (p.value / q.value)) :
    ∃ quotient : Parts, Holds (x / y) quotient ∧ Near (p.value / q.value) quotient.value := by
  have close := exponents_close moderate
  have unit := Parts.unit_pos (p.exponent - q.exponent - 53)
  -- The exponents are near to each other, so the dividend is shifted by 53 digits.
  have target : min (p.exponent - q.exponent) (Format.binary64.targetExponent
      (totalExponent p.significand p.exponent - totalExponent q.significand q.exponent)) =
        p.exponent - q.exponent - 53 := by
    simp only [Format.targetExponent, totalExponent, p.log2_significand, q.log2_significand, Format.mantissaBits,
      Format.minExponent]
    norm_num
    omega
  have shift : (p.exponent - q.exponent - (p.exponent - q.exponent - 53)).toNat = 53 := by omega
  have enough : 2 ^ 52 ≤ p.significand * 2 ^ 53 / q.significand := by
    rw [Nat.le_div_iff_mul_le q.positive]
    calc 2 ^ 52 * q.significand ≤ 2 ^ 52 * 2 ^ 53 := Nat.mul_le_mul_left _ q.short.le
      _ ≤ p.significand * 2 ^ 53 := Nat.mul_le_mul_right _ p.full
  have scaled : p.value / q.value = ((p.significand * 2 ^ 53 : Nat) / q.significand : ℚ) *
      2 ^ (p.exponent - q.exponent - 53) := by
    have apart : (2 : ℚ) ^ (p.exponent - q.exponent) = 2 ^ (53 : Int) * 2 ^ (p.exponent - q.exponent - 53) := by
      rw [← zpow_add₀ (by norm_num)]
      congr 1
      omega
    rw [value_div, apart]
    norm_num
    ring
  obtain ⟨below, above⟩ := div_bounds (p.significand * 2 ^ 53) q.significand
  rw [scaled] at moderate ⊢
  obtain ⟨quotient, result, near⟩ := rounded_near
    (accuracyOfFraction (p.significand * 2 ^ 53 % q.significand) q.significand) enough
    (mul_le_mul_of_nonneg_right below unit.le) (mul_lt_mul_of_pos_right above unit) moderate
  refine ⟨quotient, holds_of_packed (u := UnpackedFloat.div Format.binary64 p.unpacked q.unpacked) ?_ ?_, near⟩
  · rw [← hx, ← hy]
    rfl
  · rw [← result]
    simp only [Parts.unpacked, UnpackedFloat.div, divCore, target, shift, Nat.shiftLeft_eq]
    rfl

theorem exponent_lt {power : Int} (small : p.value < 2 ^ power) : p.exponent < power - 52 := by
  have full : (2 ^ (52 : Int) : ℚ) ≤ p.significand := by exact_mod_cast p.full
  have below : (2 : ℚ) ^ (52 + p.exponent) < 2 ^ power := by
    rw [zpow_add₀ (by norm_num)]
    exact lt_of_le_of_lt (mul_le_mul_of_nonneg_right full (Parts.unit_pos _).le) small
  have := (zpow_lt_zpow_iff_right₀ (by norm_num)).1 below
  omega

theorem lt_of_value (hx : Holds x p) (small : p.value < 2 ^ (53 : Int)) : x < 9007199254740992 := by
  have bound : (9007199254740992 : Float).toModel.unpack = .finite .positive (2 ^ 52) 1 (by decide) := rfl
  have order : compare p.exponent 1 = .lt := Int.compare_eq_lt.2 (exponent_lt small)
  have less : UnpackedFloat.lt x.toModel.unpack (9007199254740992 : Float).toModel.unpack = true := by
    rw [hx, bound]
    simp only [UnpackedFloat.lt, UnpackedFloat.compare, Parts.unpacked, order, Ordering.then]
    rfl
  exact decide_eq_true less

theorem toUInt64_lt (bound : Nat) (hx : Holds x p) (small : p.value < bound) (most : bound ≤ 2 ^ 52) :
    x.toUInt64.toNat < bound := by
  obtain ⟨m, e, full, short, low, high⟩ := p
  have limit : (bound : ℚ) ≤ 2 ^ (52 : Int) := by exact_mod_cast most
  have negative : e < 52 - 52 := exponent_lt (p := ⟨m, e, full, short, low, high⟩) (small.trans_le limit)
  obtain ⟨places, rfl⟩ : ∃ places : Nat, e = -places := ⟨(-e).toNat, by omega⟩
  have whole : x.toModel.unpack.toInt 0 (UInt64.size - 1) = ((m / 2 ^ places : Nat) : Int) := by
    have none : (-(places : Int) - 0).toNat = 0 := by omega
    have dropped : (0 - (-(places : Int) - (0 : Nat))).toNat = places := by omega
    rw [hx]
    simp only [Parts.unpacked, UnpackedFloat.toInt, roundToInt, decreaseExponent, shiftToExponent, none, dropped,
      shift_mantissa, mantissa_of, Nat.shiftLeft_zero, Sign.apply]
  have less : m / 2 ^ places < bound := by
    rw [Nat.div_lt_iff_lt_mul (Nat.two_pow_pos places)]
    rw [Parts.value, zpow_neg, zpow_natCast, ← div_eq_mul_inv, div_lt_iff₀ (by positivity)] at small
    exact_mod_cast small
  have converted : x.toUInt64 = .ofNatClamp (x.toModel.unpack.toInt 0 (UInt64.size - 1)).toNat := rfl
  have fits : m / 2 ^ places < UInt64.size := less.trans (most.trans_lt (by decide))
  rw [converted, whole, Int.toNat_natCast, UInt64.ofNatClamp, dif_pos fits, UInt64.toNat_ofNatLT]
  exact less

theorem zero_div (h : Holds x p) : (0 : Count).toFloat / x = 0 := by
  have same : ((0 : Count).toFloat / x).toModel =
      Float.Model.pack (UnpackedFloat.div Format.binary64 (0 : Count).toFloat.toModel.unpack x.toModel.unpack) := rfl
  have zero : (0 : Count).toFloat.toModel.unpack = .zero .positive := rfl
  rw [h, zero] at same
  exact congrArg Float.ofModel same

/-! Ranges -/

def Between (x : Float) (low high : ℚ) : Prop := ∃ p : Parts, Holds x p ∧ low ≤ p.value ∧ p.value ≤ high

variable {a b c d : ℚ}

theorem Near.between {exact : ℚ} (near : Near exact p.value) (holds : Holds x p) (positive : 0 < a)
    (least : a ≤ exact) (most : exact ≤ b) : Between x (a * (999999 / 1000000)) (b * (1000001 / 1000000)) := by
  have small : precision ≤ 1 / 1000000 := by norm_num [precision]
  refine ⟨p, holds, ?_, ?_⟩
  · refine le_trans ?_ near.1
    exact mul_le_mul least (by linarith) (by norm_num) (positive.le.trans least)
  · refine near.2.trans ?_
    exact mul_le_mul most (by linarith) (by norm_num [precision]) ((positive.le.trans least).trans most)

theorem Between.mono (h : Between x a b) (low : c ≤ a) (high : b ≤ d) : Between x c d := by
  obtain ⟨p, holds, least, most⟩ := h
  exact ⟨p, holds, low.trans least, most.trans high⟩

theorem moderate_of {exact : ℚ} (least : 1 / 2 ^ 100 ≤ exact) (most : exact ≤ 2 ^ 100) : Moderate exact := by
  constructor
  · exact le_trans (by norm_num) least
  · exact most.trans (by norm_num)

theorem between_ofCount {n : Count} (some : n ≠ 0) :
    Between n.toFloat (n.toNat * (999999 / 1000000)) (n.toNat * (1000001 / 1000000)) := by
  have positive : (0 : ℚ) < n.toNat := by
    exact_mod_cast Nat.pos_of_ne_zero fun zero => some (UInt64.toNat_inj.1 zero)
  obtain ⟨p, holds, near⟩ := ofCount_near n some
  exact near.between holds positive le_rfl le_rfl

theorem Between.mul (hx : Between x a b) (hy : Between y c d) (positive : 0 < a) (positive' : 0 < c)
    (least : 1 / 2 ^ 100 ≤ a * c) (most : b * d ≤ 2 ^ 100) :
    Between (x * y) (a * c * (999999 / 1000000)) (b * d * (1000001 / 1000000)) := by
  obtain ⟨p, holds, low, high⟩ := hx
  obtain ⟨q, holds', low', high'⟩ := hy
  have above : a * c ≤ p.value * q.value := mul_le_mul low low' positive'.le p.value_pos.le
  have below : p.value * q.value ≤ b * d := mul_le_mul high high' q.value_pos.le (positive.le.trans (low.trans high))
  obtain ⟨product, holds, near⟩ := mul_near holds holds' (moderate_of (least.trans above) (below.trans most))
  exact near.between holds (mul_pos positive positive') above below

theorem Between.div (hx : Between x a b) (hy : Between y c d) (positive : 0 < a) (positive' : 0 < c)
    (least : 1 / 2 ^ 100 ≤ a / d) (most : b / c ≤ 2 ^ 100) :
    Between (x / y) (a / d * (999999 / 1000000)) (b / c * (1000001 / 1000000)) := by
  obtain ⟨p, holds, low, high⟩ := hx
  obtain ⟨q, holds', low', high'⟩ := hy
  have above : a / d ≤ p.value / q.value := div_le_div₀ p.value_pos.le low q.value_pos high'
  have below : p.value / q.value ≤ b / c := div_le_div₀ (positive.le.trans (low.trans high)) high positive' low'
  obtain ⟨quotient, holds, near⟩ := div_near holds holds' (moderate_of (least.trans above) (below.trans most))
  have some : 0 < a / d := div_pos positive (positive'.trans_le (low'.trans high'))
  exact near.between holds some above below

theorem between_value (holds : Holds x p) : Between x p.value p.value := ⟨p, holds, le_rfl, le_rfl⟩

theorem between_two : Between 2 2 2 := by
  have holds : Holds 2 ⟨2 ^ 52, -51, by decide, by decide, by decide, by decide⟩ := rfl
  have two := between_value holds
  norm_num [Parts.value] at two
  exact two

theorem between_ten : Between 10 10 10 := by
  have holds : Holds 10 ⟨10 * 2 ^ 49, -49, by decide, by decide, by decide, by decide⟩ := rfl
  have ten := between_value holds
  norm_num [Parts.value] at ten
  exact ten

theorem between_hundred : Between 100 100 100 := by
  have holds : Holds 100 ⟨100 * 2 ^ 46, -46, by decide, by decide, by decide, by decide⟩ := rfl
  have hundred := between_value holds
  norm_num [Parts.value] at hundred
  exact hundred

end Waymark.Rounding
