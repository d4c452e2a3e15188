import SpriteScript.Proofs.Number.Finite
import SpriteScript.Proofs.Number.Value

namespace SpriteScript

/-! Whole numbers and decimals as binary numbers of double width: each of them is the rounded
exact value, so it is that value itself where this has few enough bits. -/

open Float.Model (Format UnpackedFloat totalExponent)
open Float.Model.UnpackedFloat

namespace Number

theorem minExponent_double : Format.minExponent .binary64 = -1074 := by decide

theorem isNumber_natCast {number : Nat} (short : number ≤ 2 ^ 53) :
    IsNumber .binary64 number := by
  have isNumber : IsNumber .binary64 ((number : Int) * 2 ^ (0 : Int)) :=
    isNumber_of_le (Int.natCast_nonneg number) (by exact_mod_cast short) (by decide)
  rwa [zpow_zero, mul_one, Int.cast_natCast] at isNumber

theorem isNumber_ten_pow {power : Nat} (small : power ≤ 22) : IsNumber .binary64 (10 ^ power) := by
  have short : (5 : Int) ^ power ≤ 2 ^ Format.mantissaBits .binary64 :=
    (pow_le_pow_right₀ (by decide) small).trans (by decide)
  have isNumber : IsNumber .binary64 (((5 ^ power : Int) : ℚ) * 2 ^ (power : Int)) :=
    isNumber_of_le (by positivity) short (by rw [minExponent_double]; omega)
  rwa [zpow_natCast, Int.cast_pow, Int.cast_ofNat, ← mul_pow, show (5 : ℚ) * 2 = 10 by norm_num]
    at isNumber

theorem threshold_double : threshold .binary64 = 2 ^ 1024 - 2 ^ 970 := by
  have grid : greatestGrid .binary64 = (970 : Nat) + 1 := by decide
  have bits : ((970 : Nat) + 1 : Int) + (Format.mantissaBits .binary64 : Int) = (1024 : Nat) := by
    decide
  rw [threshold, ceiling, grid, bits, two_zpow_succ, mul_div_cancel_left₀ _ two_ne_zero,
    zpow_natCast, zpow_natCast]

theorem greatest_double : greatest .binary64 = 2 ^ 1024 - 2 ^ 971 := by
  have grid : greatestGrid .binary64 = (971 : Nat) := by decide
  have bits : ((971 : Nat) : Int) + (Format.mantissaBits .binary64 : Int) = (1024 : Nat) := by
    decide
  rw [greatest, ceiling, grid, bits, zpow_natCast, zpow_natCast]

theorem natCast_lt_threshold {number : Nat} (less : number + 2 ^ 970 < 2 ^ 1024) :
    |(number : ℚ)| < threshold .binary64 := by
  have lessCast : (number : ℚ) + 2 ^ 970 < 2 ^ 1024 := by exact_mod_cast less
  rw [threshold_double, abs_of_nonneg (Nat.cast_nonneg number)]
  exact lt_sub_iff_add_lt.mpr lessCast

/-! ## Decimals -/

/-- Whether a number is positive and has a whole value. -/
def isWhole (number : Float) (whole : Nat) : Bool :=
  match Binary.unpacked number with
  | .finite .positive mantissa exponent _ =>
      mantissa * 2 ^ exponent.toNat == whole * 2 ^ (-exponent).toNat
  | _ => false

theorem value_of_isWhole {number : Float} {whole : Nat} (isWhole : isWhole number whole = true) :
    IsFinite number ∧ value number = whole := by
  rw [Number.isWhole] at isWhole
  split at isWhole
  · next mantissa exponent positive unpacked =>
      rw [IsFinite, value, unpacked]
      refine ⟨rfl, ?_⟩
      have cast : (mantissa : ℚ) * 2 ^ exponent.toNat = whole * 2 ^ (-exponent).toNat := by
        exact_mod_cast beq_iff_eq.mp isWhole
      have powers : (2 : ℚ) ^ exponent.toNat = 2 ^ exponent * 2 ^ (-exponent).toNat := by
        rw [← zpow_natCast, ← zpow_natCast, ← two_zpow_add]
        congr 1
        omega
      rw [powers, ← mul_assoc] at cast
      rw [valueOf_positive]
      exact mul_right_cancel₀ (by positivity) cast
  · cases isWhole

theorem computes_toFloat (number : UInt64) : Computes number.toFloat number.toNat := by
  have rounded : IsRounded .binary64 _ _ := isRounded_normalize number.toNat 0 .positive
  rw [zpow_zero, mul_one, Int.cast_natCast] at rounded
  exact computes_of_isRounded rfl rounded

theorem Computes.value_eq {number : Float} {exact : ℚ} (computes : Computes number exact)
    (isNumber : IsNumber .binary64 exact) (less : |exact| < threshold .binary64) :
    IsFinite number ∧ value number = exact :=
  have finite := computes.isFinite_iff.mpr less
  ⟨finite, (computes.rounds finite).eq_of_isNumber isNumber⟩

theorem computes_ofScientific_of_listed {mantissa power : Nat}
    (listed : mantissa < 2 ^ 53 ∧ power ≤ 22) :
    Computes (Float.ofScientific mantissa false power) (mantissa * 10 ^ power) := by
  have table : ∀ power : Fin 23,
      isWhole Float.exactlyRepresentablePowersOfTen[power.val] (10 ^ power.val) = true := by
    decide +kernel
  rcases value_of_isWhole (table ⟨power, by omega⟩) with ⟨powerFinite, powerValue⟩
  have word : mantissa.toUInt64.toNat = mantissa :=
    UInt64.toNat_ofNat_of_lt' (listed.1.trans (by decide))
  have whole := computes_toFloat mantissa.toUInt64
  rw [word] at whole
  rcases whole.value_eq (isNumber_natCast listed.1.le)
    (natCast_lt_threshold (by omega)) with ⟨finite, same⟩
  have product := computes_mul finite powerFinite
  rw [same, powerValue] at product
  rw [Float.ofScientific, dif_pos listed]
  exact_mod_cast product

theorem isRounded_scaled {count : Nat} (positive : 0 < count) :
    IsRounded .binary64 count (roundWithAccuracy .binary64 (.positive * .positive)
      (count * 2 ^ 53) (-53) .exact) := by
  have long : 53 ≤ (count * 2 ^ 53).log2 := by
    rw [Nat.le_log2 (Nat.mul_pos positive (Nat.two_pow_pos _)).ne']
    exact Nat.le_mul_of_pos_left _ positive
  have bits : (Format.mantissaBits .binary64 : Int) = 53 := by decide
  have rounded : IsRounded .binary64 _ _ := isRounded_exact (.positive * .positive)
    (show -53 ≤ Format.targetExponent .binary64 (totalExponent (count * 2 ^ 53) (-53)) by
      rw [Format.targetExponent, totalExponent, bits]
      omega)
  have same : ((Sign.positive * .positive).apply ((count * 2 ^ 53 : Nat) : Int) : ℚ) *
      2 ^ (-53 : Int) = count := by
    change (((count * 2 ^ 53 : Nat) : Int) : ℚ) * 2 ^ (-53 : Int) = _
    rw [Int.cast_natCast]
    push_cast
    rw [zpow_neg, mul_assoc]
    norm_num
  rwa [same] at rounded

theorem computes_ofScientific {mantissa power : Nat} (positive : 0 < mantissa)
    (small : power ≤ 2048) :
    Computes (Float.ofScientific mantissa false power) (mantissa * 10 ^ power) := by
  by_cases listed : mantissa < 2 ^ 53 ∧ power ≤ 22
  · exact computes_ofScientific_of_listed listed
  · refine computes_of_isRounded (unpacked_ofScientific positive.ne' listed small) ?_
    have some : 0 < mantissa * 10 ^ power := Nat.mul_pos positive (Nat.pow_pos (by decide))
    have rounded := isRounded_scaled some
    rw [Nat.shiftLeft_eq, Nat.mul_right_comm]
    exact_mod_cast rounded

theorem computes_ofNat {number : Nat} (positive : 0 < number) :
    Computes (Float.ofNat number) number := by
  have computes := @computes_ofScientific _ 0 positive (Nat.zero_le _)
  rwa [pow_zero, mul_one] at computes

theorem value_ofNat {number : Nat} (positive : 0 < number) (short : number ≤ 2 ^ 53) :
    IsFinite (Float.ofNat number) ∧ value (Float.ofNat number) = number :=
  (computes_ofNat positive).value_eq (isNumber_natCast short) (natCast_lt_threshold (by omega))

end Number

end SpriteScript
