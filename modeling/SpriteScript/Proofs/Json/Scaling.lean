import SpriteScript.Proofs.Json.Quantity
import SpriteScript.Proofs.Number.Scientific

namespace SpriteScript

/-! Scaling by powers of ten, as it is done when a number is read. The factor is rounded and so
is the result: a scaled number is within two roundings of the exact value, and within one if the
factor is small. Only the greatest numbers could overflow. -/

open Float.Model (Format)

namespace Quantity

open Number

/-! ## Powers of ten -/

variable {power : Nat}

theorem isFinite_powerOfTen (atMost : power ≤ greatestPower) : IsFinite (powerOfTen power) :=
  powerOfTen_isFinite atMost

theorem rounds_powerOfTen (atMost : power ≤ greatestPower) :
    Rounds .binary64 (10 ^ power) (value (powerOfTen power)) := by
  have computes := computes_ofScientific one_pos
    (atMost.trans (by decide : greatestPower ≤ 2048))
  have rounds := computes.rounds (isFinite_powerOfTen atMost)
  rwa [Nat.cast_one, one_mul] at rounds

theorem value_powerOfTen (small : power ≤ 22) : value (powerOfTen power) = 10 ^ power :=
  (rounds_powerOfTen (small.trans (by decide))).eq_of_isNumber (isNumber_ten_pow small)

theorem one_le_ten_pow (power : Nat) : (1 : ℚ) ≤ 10 ^ power := one_le_pow₀ (by norm_num)

theorem relative_of_normal {exact number : ℚ} (rounds : Rounds .binary64 exact number)
    (normal : 2 ^ (-1022 : Int) ≤ exact) : |exact - number| * 2 ^ 53 ≤ exact := by
  have positive : 0 < exact := (two_zpow_pos _).trans_le normal
  have relative := rounds.relative (by rwa [abs_of_pos positive])
  rwa [abs_of_pos positive] at relative

theorem normal_of_one_le {exact : ℚ} (large : 1 ≤ exact) : 2 ^ (-1022 : Int) ≤ exact :=
  (zpow_le_one_of_nonpos₀ (by norm_num) (by decide)).trans large

theorem close_powerOfTen (atMost : power ≤ greatestPower) :
    |10 ^ power - value (powerOfTen power)| * 2 ^ 53 ≤ 10 ^ power :=
  relative_of_normal (rounds_powerOfTen atMost) (normal_of_one_le (one_le_ten_pow power))

theorem powerOfTen_le (atMost : power ≤ greatestPower) :
    value (powerOfTen power) ≤ 2 * 10 ^ power := by
  have close := close_powerOfTen atMost
  have below := neg_abs_le (10 ^ power - value (powerOfTen power))
  have nonneg : (0 : ℚ) ≤ 10 ^ power := by positivity
  linarith

theorem powerOfTen_le_of_le (atMost : power ≤ 200) :
    value (powerOfTen power) ≤ 2 * 10 ^ 200 := by
  have powers : (10 : ℚ) ^ power ≤ 10 ^ 200 := pow_le_pow_right₀ (by norm_num) atMost
  exact (powerOfTen_le (atMost.trans (by decide))).trans
    (mul_le_mul_of_nonneg_left powers two_pos.le)

theorem one_le_powerOfTen (atMost : power ≤ greatestPower) : 1 ≤ value (powerOfTen power) :=
  (rounds_powerOfTen atMost).le_of_ge (isNumber_one (Rounding.wide (α := Float)))
    (one_le_ten_pow power)

/-! ## Scaling -/

variable {number : Float} {power : Int}

theorem value_of_beq_zero (zero : (number == 0.0) = true) : value number = 0 := by
  have compared : (Binary.unpacked number).compare (.zero .positive) = some .eq :=
    beq_iff_eq.mp zero
  rw [value]
  cases unpacked : Binary.unpacked number with
  | zero sign => rfl
  | infinity sign => rfl
  | notANumber => rfl
  | finite sign mantissa exponent positive =>
      rw [unpacked] at compared
      cases sign <;> cases compared

theorem scale?_of_neg (number : Float) (negative : power < 0) (least : -308 ≤ power) :
    scale? number power = some (number / powerOfTen power.natAbs) := by
  have once : (power.natAbs - 1) / greatestPower = 0 := by
    rw [greatestPower]
    omega
  rw [scale?, if_pos negative, divide, once, divide.stages, once, Nat.zero_mul, Nat.sub_zero]

theorem scale?_of_nonneg (positive : value number ≠ 0) (nonneg : 0 ≤ power)
    (atMost : power ≤ 308) (finite : IsFinite (number * powerOfTen power.natAbs)) :
    scale? number power = some (number * powerOfTen power.natAbs) := by
  have nonzero : ¬(number == 0.0) = true := mt value_of_beq_zero positive
  have bounded : power.natAbs ≤ greatestPower := by
    rw [greatestPower]
    omega
  have notInfinite : ¬(number * powerOfTen power.natAbs).isInf = true := by
    intro infinite
    change (Binary.unpacked (number * powerOfTen power.natAbs)).isInf = true at infinite
    rw [IsFinite] at finite
    cases unpacked : Binary.unpacked (number * powerOfTen power.natAbs) <;>
      rw [unpacked] at finite infinite
    case infinity => cases finite
    all_goals cases infinite
  rw [scale?, if_neg (not_lt.mpr nonneg), if_neg nonzero, if_pos bounded]
  exact if_neg notInfinite

theorem two_roundings {exact middle rounded : ℚ}
    (first : |exact - middle| * 2 ^ 53 ≤ max exact middle)
    (second : |middle - rounded| * 2 ^ 53 ≤ middle) :
    |exact - rounded| * 2 ^ 63 ≤ 2049 * exact := by
  have apart := abs_sub_le exact middle rounded
  have near := abs_le.mp (le_refl |exact - middle|)
  have nonneg : 0 ≤ middle := le_trans (by positivity) second
  rcases le_total exact middle with le | le
  · rw [max_eq_right le] at first
    linarith
  · rw [max_eq_left le] at first
    linarith

theorem ten_zpow_of_nonneg (nonneg : 0 ≤ power) : (10 : ℚ) ^ power = 10 ^ power.natAbs := by
  rw [← zpow_natCast, Int.natAbs_of_nonneg nonneg]

theorem ten_zpow_of_neg (negative : power < 0) : (10 : ℚ) ^ power = (10 ^ power.natAbs)⁻¹ := by
  rw [← zpow_natCast, ← zpow_neg, Int.ofNat_natAbs_of_nonpos negative.le, neg_neg]

variable {total : Nat}

theorem scale?_near_of_nonneg (positive : 0 < total) (short : total ≤ 2 ^ 53)
    (nonneg : 0 ≤ power) (greatest : power ≤ 200) :
    ∃ scaled, scale? (.ofNat total) power = some scaled ∧ IsFinite scaled ∧
      |total * 10 ^ power - value scaled| * 2 ^ 63 ≤ 2049 * (total * 10 ^ power) ∧
      (power.natAbs ≤ 22 → Rounds .binary64 (total * 10 ^ power) (value scaled)) := by
  rcases value_ofNat positive short with ⟨finite, same⟩
  have bounded : power.natAbs ≤ greatestPower := by
    rw [greatestPower]
    omega
  have totalCast : (1 : ℚ) ≤ total := by exact_mod_cast positive
  have large := one_le_powerOfTen bounded
  have product := computes_mul finite (isFinite_powerOfTen bounded)
  rw [same] at product
  have least : (1 : ℚ) ≤ total * value (powerOfTen power.natAbs) :=
    one_le_mul_of_one_le_of_one_le totalCast large
  have less : |(total : ℚ) * value (powerOfTen power.natAbs)| < threshold .binary64 := by
    refine lt_of_le_of_lt ?_ (natCast_lt_threshold (show 2 ^ 53 * (2 * 10 ^ 200) + 2 ^ 970 <
      2 ^ 1024 by decide +kernel))
    have shortCast : (total : ℚ) ≤ 2 ^ 53 := by exact_mod_cast short
    rw [abs_of_nonneg (zero_le_one.trans least), abs_of_nonneg (Nat.cast_nonneg _)]
    simp only [Nat.cast_mul, Nat.cast_pow, Nat.cast_ofNat]
    exact mul_le_mul shortCast (powerOfTen_le_of_le (by omega)) (zero_le_one.trans large)
      (by positivity)
  have scaledFinite := product.isFinite_iff.mpr less
  have rounds := product.rounds scaledFinite
  rw [ten_zpow_of_nonneg nonneg]
  refine ⟨_, scale?_of_nonneg (by rw [same]; positivity) nonneg (by omega) scaledFinite,
    scaledFinite, two_roundings (le_trans ?_ (le_max_left _ _))
      (relative_of_normal rounds (normal_of_one_le least)), fun small => ?_⟩
  · rw [← mul_sub, abs_mul, abs_of_pos (zero_lt_one.trans_le totalCast), mul_assoc]
    exact mul_le_mul_of_nonneg_left (close_powerOfTen bounded) (by positivity)
  · rwa [value_powerOfTen small] at rounds

theorem close_quotient {power : Nat} (atMost : power ≤ greatestPower) {number : ℚ}
    (atLeast : 1 ≤ number) :
    |number / 10 ^ power - number / value (powerOfTen power)| * 2 ^ 53 ≤
      number / value (powerOfTen power) := by
  have factorPos : 0 < value (powerOfTen power) := zero_lt_one.trans_le (one_le_powerOfTen atMost)
  have quotientPos : 0 < number / value (powerOfTen power) :=
    div_pos (zero_lt_one.trans_le atLeast) factorPos
  have exactPos : (0 : ℚ) < 10 ^ power := by positivity
  have apart : number / 10 ^ power - number / value (powerOfTen power) =
      number / value (powerOfTen power) *
        ((value (powerOfTen power) - 10 ^ power) / 10 ^ power) := by
    field_simp
  rw [apart, abs_mul, abs_of_pos quotientPos, abs_div, abs_of_pos exactPos, mul_assoc]
  refine mul_le_of_le_one_right quotientPos.le ?_
  rw [div_mul_eq_mul_div, div_le_one exactPos, abs_sub_comm]
  exact close_powerOfTen atMost

theorem scale?_near_of_neg (positive : 0 < total) (short : total ≤ 2 ^ 53)
    (negative : power < 0) (least : -200 ≤ power) :
    ∃ scaled, scale? (.ofNat total) power = some scaled ∧ IsFinite scaled ∧
      |total * 10 ^ power - value scaled| * 2 ^ 63 ≤ 2049 * (total * 10 ^ power) ∧
      (power.natAbs ≤ 22 → Rounds .binary64 (total * 10 ^ power) (value scaled)) := by
  rcases value_ofNat positive short with ⟨finite, same⟩
  have bounded : power.natAbs ≤ greatestPower := by
    rw [greatestPower]
    omega
  have totalCast : (1 : ℚ) ≤ total := by exact_mod_cast positive
  have large := one_le_powerOfTen bounded
  have factorPos : 0 < value (powerOfTen power.natAbs) := zero_lt_one.trans_le large
  have quotient := computes_div finite (isFinite_powerOfTen bounded) factorPos.ne'
  rw [same] at quotient
  have quotientPos : 0 < (total : ℚ) / value (powerOfTen power.natAbs) := by positivity
  have less : |(total : ℚ) / value (powerOfTen power.natAbs)| < threshold .binary64 := by
    refine lt_of_le_of_lt ?_ (natCast_lt_threshold (show total + 2 ^ 970 < 2 ^ 1024 by omega))
    rw [abs_of_pos quotientPos, abs_of_nonneg (Nat.cast_nonneg _)]
    exact div_le_self (Nat.cast_nonneg _) large
  have normal : 2 ^ (-1022 : Int) ≤ (total : ℚ) / value (powerOfTen power.natAbs) := by
    have factorMost : value (powerOfTen power.natAbs) ≤ 2 ^ 1022 :=
      (powerOfTen_le_of_le (by omega)).trans (by
        exact_mod_cast (show 2 * 10 ^ 200 ≤ 2 ^ 1022 by decide +kernel))
    rw [zpow_neg, le_div_iff₀ factorPos, inv_mul_le_iff₀ (by positivity)]
    exact factorMost.trans (le_mul_of_one_le_right (by positivity) totalCast)
  have scaledFinite := quotient.isFinite_iff.mpr less
  have rounds := quotient.rounds scaledFinite
  rw [ten_zpow_of_neg negative, ← div_eq_mul_inv]
  refine ⟨_, scale?_of_neg _ negative (by omega), scaledFinite,
    two_roundings (le_trans ?_ (le_max_right _ _)) (relative_of_normal rounds normal),
    fun small => ?_⟩
  · exact close_quotient bounded totalCast
  · rwa [value_powerOfTen small] at rounds

/-- A number of 53 bits that is scaled by a power of ten is within two roundings of the exact
value; by a power of at most 22 it is rounded once. -/
theorem scale?_near (positive : 0 < total) (short : total ≤ 2 ^ 53) (least : -200 ≤ power)
    (greatest : power ≤ 200) :
    ∃ scaled, scale? (.ofNat total) power = some scaled ∧ IsFinite scaled ∧
      |total * 10 ^ power - value scaled| * 2 ^ 63 ≤ 2049 * (total * 10 ^ power) ∧
      (power.natAbs ≤ 22 → Rounds .binary64 (total * 10 ^ power) (value scaled)) := by
  rcases Int.lt_or_le power 0 with negative | nonneg
  · exact scale?_near_of_neg positive short negative least
  · exact scale?_near_of_nonneg positive short nonneg greatest

/-! ## Overflow -/

theorem lt_threshold_of_bound {exact : ℚ} {bound : Nat} (nonneg : 0 ≤ exact)
    (le : exact * 2 ^ 53 ≤ bound) (less : bound + 2 ^ 970 * 2 ^ 53 < 2 ^ 1024 * 2 ^ 53) :
    |exact| < threshold .binary64 := by
  have lessCast : (bound : ℚ) + 2 ^ 970 * 2 ^ 53 < 2 ^ 1024 * 2 ^ 53 := by exact_mod_cast less
  rw [abs_of_nonneg nonneg, threshold_double, lt_sub_iff_add_lt]
  have scaled : (exact + 2 ^ 970) * 2 ^ 53 < 2 ^ 1024 * 2 ^ 53 := by
    rw [add_mul]
    exact (add_le_add_left le _).trans_lt lessCast
  exact lt_of_mul_lt_mul_right scaled (by positivity)

theorem product_le {exponent : Nat} (atMost : exponent ≤ greatestPower) {number : ℚ}
    {bound : Nat} (le : number ≤ bound) :
    number * value (powerOfTen exponent) * 2 ^ 53 ≤
      ((bound * (10 ^ exponent * (2 ^ 53 + 1)) : Nat) : ℚ) := by
  have close := close_powerOfTen atMost
  have below := neg_abs_le (10 ^ exponent - value (powerOfTen exponent))
  have most : value (powerOfTen exponent) * 2 ^ 53 ≤ 10 ^ exponent * (2 ^ 53 + 1) := by linarith
  have large := one_le_powerOfTen atMost
  rw [mul_assoc]
  simp only [Nat.cast_mul, Nat.cast_pow, Nat.cast_ofNat, Nat.cast_add, Nat.cast_one]
  exact mul_le_mul le most (by positivity) (by positivity)

theorem le_ofNat {bound : Nat} (positive : 0 < total) (finite : IsFinite (Float.ofNat total))
    (isNumber : IsNumber .binary64 bound) (le : total ≤ bound) :
    value (Float.ofNat total) ≤ bound :=
  ((computes_ofNat positive).rounds finite).le_of_le isNumber (by exact_mod_cast le)

theorem value_ofNat_last {total : Nat} (positive : 0 < total) (le : total ≤ 17976931348623157)
    (finite : IsFinite (Float.ofNat total)) :
    value (Float.ofNat total) ≤ (17976931348623156 : Nat) := by
  rcases le.eq_or_lt with rfl | less
  · exact (value_of_isWhole (by decide +kernel)).2.le
  · have isNumber : IsNumber .binary64 (((8988465674311578 : Int) : ℚ) * 2 ^ (1 : Int)) :=
      isNumber_of_le (by decide) (by decide) (by decide)
    refine le_ofNat positive finite ?_ (Nat.le_of_lt_succ less)
    rw [zpow_one] at isNumber
    norm_num at isNumber ⊢
    exact isNumber

section

variable {power : Nat} (positive : 0 < total) (finite : IsFinite (Float.ofNat total))
include positive finite

theorem one_le_ofNat : 1 ≤ value (Float.ofNat total) :=
  ((computes_ofNat positive).rounds finite).le_of_ge
    (isNumber_one (Rounding.wide (α := Float))) (by exact_mod_cast positive)

theorem product_nonneg (atMost : power ≤ greatestPower) :
    0 ≤ value (Float.ofNat total) * value (powerOfTen power) :=
  mul_nonneg (zero_le_one.trans (one_le_ofNat positive finite))
    (zero_le_one.trans (one_le_powerOfTen atMost))

theorem product_lt_of_few (fits : total ≤ 10 ^ 17) (few : power < 292) :
    |value (Float.ofNat total) * value (powerOfTen power)| < threshold .binary64 := by
  have atMost : power ≤ greatestPower := few.le.trans (by decide)
  have isNumber : IsNumber .binary64 ((10 ^ 17 : Nat) : ℚ) := by
    exact_mod_cast isNumber_ten_pow (show 17 ≤ 22 by decide)
  have powers : 10 ^ power ≤ 10 ^ 291 := pow_le_pow_right₀ (by decide) (Nat.le_of_lt_succ few)
  have most := Nat.mul_le_mul_left (10 ^ 17) (Nat.mul_le_mul_right (2 ^ 53 + 1) powers)
  have closed : 10 ^ 17 * (10 ^ 291 * (2 ^ 53 + 1)) + 2 ^ 970 * 2 ^ 53 < 2 ^ 1024 * 2 ^ 53 := by
    decide +kernel
  exact lt_threshold_of_bound (product_nonneg positive finite atMost)
    (product_le atMost (le_ofNat positive finite isNumber fits))
    ((Nat.add_le_add_right most _).trans_lt closed)

/-- The factor is rounded up here, so that one more digit would not do. -/
theorem product_lt_of_last (le : total ≤ 17976931348623157) :
    |value (Float.ofNat total) * value (powerOfTen 292)| < threshold .binary64 := by
  have factor : value (powerOfTen 292) = (2256492969831037 * 2 ^ 919 : Nat) :=
    (value_of_isWhole (by decide +kernel)).2
  have closed : 17976931348623156 * (2256492969831037 * 2 ^ 919) + 2 ^ 970 < 2 ^ 1024 := by
    decide +kernel
  refine lt_of_le_of_lt ?_ (natCast_lt_threshold closed)
  rw [abs_of_nonneg (product_nonneg positive finite (by decide)),
    abs_of_nonneg (Nat.cast_nonneg _), factor, Nat.cast_mul _ (_ * _)]
  exact mul_le_mul_of_nonneg_right (value_ofNat_last positive le finite) (Nat.cast_nonneg _)

theorem product_lt_of_many (whole : total * 10 ^ power + 2 ^ 970 < 2 ^ 1024)
    (many : 292 < power) (atMost : power ≤ greatestPower) :
    |value (Float.ofNat total) * value (powerOfTen power)| < threshold .binary64 := by
  have listed : ∀ power < 309, 292 < power →
      (2 ^ 1024 - 2 ^ 970 - 1) / 10 ^ power ≤ 2 ^ 53 ∧
      (2 ^ 1024 - 2 ^ 970 - 1) / 10 ^ power * (10 ^ power * (2 ^ 53 + 1)) + 2 ^ 970 * 2 ^ 53 <
        2 ^ 1024 * 2 ^ 53 := by
    decide +kernel
  rcases listed power (Nat.lt_succ_of_le atMost) many with ⟨short, bounded⟩
  refine lt_threshold_of_bound (product_nonneg positive finite atMost)
    (product_le atMost (le_ofNat positive finite (isNumber_natCast short) ?_)) bounded
  rw [Nat.le_div_iff_mul_le (by positivity)]
  omega

end

/-- Up to seventeen digits are scaled without overflow, but for the greatest numbers. -/
theorem scale?_isSome (positive : 0 < total) (fits : total ≤ 10 ^ 17)
    (less : total * 10 ^ power < threshold .binary64)
    (last : power = 292 → total ≤ 17976931348623157) :
    ∃ scaled, scale? (.ofNat total) power = some scaled := by
  rcases Int.lt_or_le power 0 with negative | nonneg
  · rw [scale?, if_pos negative]
    exact ⟨_, rfl⟩
  have finite : IsFinite (Float.ofNat total) :=
    (computes_ofNat positive).isFinite_iff.mpr (natCast_lt_threshold (by omega))
  lift power to Nat using nonneg
  rw [zpow_natCast] at less
  have whole : total * 10 ^ power + 2 ^ 970 < 2 ^ 1024 := by
    rw [threshold_double, lt_sub_iff_add_lt] at less
    exact_mod_cast less
  have atMost : power ≤ greatestPower := by
    by_contra beyond
    have powers := Nat.pow_le_pow_right (n := 10) (by decide) (Nat.lt_of_not_le beyond)
    have more := Nat.le_mul_of_pos_left (10 ^ power) positive
    have large : 2 ^ 1024 < 10 ^ (greatestPower + 1) := by decide +kernel
    omega
  have fitting : |value (Float.ofNat total) * value (powerOfTen power)| < threshold .binary64 := by
    rcases lt_trichotomy power 292 with few | rfl | many
    · exact product_lt_of_few positive finite fits few
    · exact product_lt_of_last positive finite (last rfl)
    · exact product_lt_of_many positive finite whole many atMost
  have product := computes_mul finite (isFinite_powerOfTen atMost)
  exact ⟨_, scale?_of_nonneg (zero_lt_one.trans_le (one_le_ofNat positive finite)).ne'
    (Int.natCast_nonneg _) (by exact_mod_cast atMost) (product.isFinite_iff.mpr fitting)⟩

end Quantity

end SpriteScript
