import SpriteScript.Proofs.Number.Value

namespace SpriteScript

/-! Between two finite numbers there is no overflow. A mixture of both is finite however it is
rounded; the sum of one of them and a part of the distance is finite if the distance is. -/

open Float.Model (Format)

namespace Number

/-! ## Products with a fraction -/

section

variable {format : Format}

theorem greatest_eq (format : Format) :
    greatest format = (2 ^ format.mantissaBits - 1) * 2 ^ greatestGrid format := by
  rw [greatest, ceiling, two_zpow_scaled]
  ring

theorem IsNumber.abs_le_greatest {number : ℚ} (isNumber : IsNumber format number)
    (less : |number| < ceiling format) : |number| ≤ greatest format := by
  have bounds := abs_lt.mp less
  rw [abs_le']
  exact ⟨isNumber.le_greatest bounds.2, isNumber.neg.le_greatest (by linarith)⟩

/-- There is no number from the middle up to the ceiling. -/
theorem IsNumber.lt_threshold_iff {number : ℚ} (isNumber : IsNumber format number) :
    |number| < threshold format ↔ |number| < ceiling format := by
  constructor
  · intro less
    exact less.trans (threshold_lt_ceiling format)
  · intro less
    exact (isNumber.abs_le_greatest less).trans_lt (greatest_lt_threshold format)

theorem shiftLeft_long {mantissa : Nat} (positive : 0 < mantissa)
    (short : mantissa < 2 ^ format.mantissaBits) :
    2 ^ (format.mantissaBits - 1) ≤ mantissa <<< (format.mantissaBits - 1 - mantissa.log2) ∧
      mantissa <<< (format.mantissaBits - 1 - mantissa.log2) < 2 ^ format.mantissaBits := by
  have bits := mantissaBits_pos format
  have log := (Nat.log2_lt positive.ne').mpr short
  have shifted := log2_shiftLeft positive (format.mantissaBits - 1 - mantissa.log2)
  have nonzero : mantissa <<< (format.mantissaBits - 1 - mantissa.log2) ≠ 0 := by
    rw [Nat.shiftLeft_eq]
    positivity
  have same : mantissa.log2 + (format.mantissaBits - 1 - mantissa.log2) =
      format.mantissaBits - 1 := by omega
  rw [same, Nat.log2_eq_iff nonzero, Nat.sub_add_cancel (by omega)] at shifted
  exact shifted

theorem Rounds.le_greatest_mul (wide : IsWide format) {coordinate product : ℚ} {mantissa : Nat}
    {exponent : Int} (rounds : Rounds format (coordinate * (mantissa * 2 ^ exponent)) product)
    (le : coordinate ≤ greatest format) (positive : 0 < mantissa)
    (short : mantissa < 2 ^ format.mantissaBits) (least : format.minExponent ≤ exponent) :
    product ≤ greatest format * (mantissa * 2 ^ exponent) := by
  have fraction : (0 : ℚ) ≤ mantissa * 2 ^ exponent := by positivity
  have long := @shiftLeft_long format _ positive short
  have wideEnough := wide.greatest
  rw [← shiftLeft_mul_zpow mantissa (format.mantissaBits - 1 - mantissa.log2) exponent]
    at rounds fraction ⊢
  generalize mantissa <<< (format.mantissaBits - 1 - mantissa.log2) = count
    at rounds fraction long ⊢
  have scaled : greatest format *
      (count * 2 ^ (exponent - (format.mantissaBits - 1 - mantissa.log2 : Nat))) =
        (2 ^ format.mantissaBits - 1) * ((count : Int) : ℚ) * 2 ^ (greatestGrid format +
          (exponent - (format.mantissaBits - 1 - mantissa.log2 : Nat))) := by
    rw [greatest_eq, two_zpow_add, Int.cast_natCast]
    ring
  have atMost := mul_le_mul_of_nonneg_right le fraction
  rw [scaled] at atMost ⊢
  exact rounds.le_of_scaled (by exact_mod_cast long.2) (by exact_mod_cast long.1) (by omega) atMost

theorem Rounds.abs_le_greatest_mul (wide : IsWide format) {coordinate product : ℚ} {mantissa : Nat}
    {exponent : Int} (rounds : Rounds format (coordinate * (mantissa * 2 ^ exponent)) product)
    (le : |coordinate| ≤ greatest format) (positive : 0 < mantissa)
    (short : mantissa < 2 ^ format.mantissaBits) (least : format.minExponent ≤ exponent) :
    |product| ≤ greatest format * (mantissa * 2 ^ exponent) := by
  have bounds := abs_le'.mp le
  have opposite := rounds.neg
  rw [← neg_mul] at opposite
  rw [abs_le']
  exact ⟨rounds.le_greatest_mul wide bounds.1 positive short least,
    opposite.le_greatest_mul wide bounds.2 positive short least⟩

/-- Neither the source nor the sum with the whole width overflows, and nothing between does. -/
theorem abs_add_part_lt (wide : IsWide format) {source step target width part : ℚ}
    (sourceNumber : IsNumber format source) (sourceLess : |source| < ceiling format)
    (stepNumber : IsNumber format step) (reached : Rounds format (source + step) target)
    (targetLess : |target| < ceiling format) (measured : Rounds format (target - source) width)
    (widthLess : |width| < ceiling format)
    (between : 0 ≤ part ∧ part ≤ width ∨ width ≤ part ∧ part ≤ 0) :
    |source + part| < threshold format := by
  have sourceMost := abs_le.mp (sourceNumber.abs_le_greatest sourceLess)
  have most := greatest_lt_threshold format
  have sourceBounds := abs_lt.mp sourceLess
  have widthBounds := abs_lt.mp widthLess
  have above := lt_threshold_of_measured wide sourceNumber sourceBounds.2 stepNumber reached
    targetLess measured widthBounds.2
  have reachedBelow : Rounds format (-source + -step) (-target) := by
    rw [← neg_add]
    exact reached.neg
  have measuredBelow : Rounds format (-target - -source) (-width) := by
    rw [← neg_sub']
    exact measured.neg
  have below := lt_threshold_of_measured wide sourceNumber.neg (by linarith) stepNumber.neg
    reachedBelow (by rwa [abs_neg]) measuredBelow (by linarith)
  rw [abs_lt]
  rcases between with ⟨least, atMost⟩ | ⟨least, atMost⟩ <;> constructor <;> linarith

end

section

variable {α : Type} [Binary α] [Arithmetic α] [Rounding α] {left right fraction : α}

theorem IsFinite.abs_le_greatest {number : α} (finite : IsFinite number) :
    |value number| ≤ greatest (Binary.format α) :=
  finite.isNumber.abs_le_greatest (abs_value_lt number)

theorem IsFinite.mul_fraction (finite : IsFinite left) (inUnit : InUnit fraction) :
    IsFinite (left * fraction) ∧
      |value (left * fraction)| ≤ greatest (Binary.format α) * value fraction := by
  have computes := computes_mul finite inUnit.finite
  have most := finite.abs_le_greatest
  have nonneg := inUnit.nonneg
  have less : |value left * value fraction| < threshold (Binary.format α) := by
    rw [abs_mul, abs_of_nonneg nonneg]
    exact (mul_le_of_le_one_right (abs_nonneg _) inUnit.le_one).trans_lt
      (most.trans_lt (greatest_lt_threshold _))
  have product := computes.isFinite_iff.mpr less
  refine ⟨product, ?_⟩
  have rounds := computes.rounds product
  have canonical := inUnit.finite.canonical
  change 0 ≤ valueOf (Binary.unpacked fraction) at nonneg
  change Rounds _ (_ * valueOf (Binary.unpacked fraction)) _ at rounds
  change _ ≤ _ * valueOf (Binary.unpacked fraction)
  generalize Binary.unpacked fraction = unpacked at canonical nonneg rounds ⊢
  cases canonical with
  | zero sign =>
      rw [valueOf_zero, mul_zero] at rounds ⊢
      rw [rounds.eq_of_isNumber (isNumber_zero _), abs_zero]
  | @finite sign mantissa exponent positive least short long =>
      cases sign with
      | positive =>
          rw [valueOf_positive] at rounds ⊢
          exact rounds.abs_le_greatest_mul wide most positive short least
      | negative =>
          have below : (0 : ℚ) < mantissa * 2 ^ exponent := by positivity
          rw [valueOf_negative] at nonneg
          linarith

theorem isFinite_mixture (leftFinite : IsFinite left) (rightFinite : IsFinite right)
    (inUnit : InUnit fraction) :
    IsFinite (left * (Arithmetic.one - fraction) + right * fraction) := by
  have leftPart := leftFinite.mul_fraction inUnit.one_sub
  have rightPart := rightFinite.mul_fraction inUnit
  rw [(computes_add leftPart.1 rightPart.1).isFinite_iff]
  have computes := computes_sub isFinite_one inUnit.finite
  rw [value_one] at computes
  have near := abs_le.mp ((computes.rounds inUnit.one_sub.finite).near_of_le_one wide
    (sub_nonneg.mpr inUnit.le_one) (sub_le_self _ inUnit.nonneg))
  -- Both parts of the greatest number together are less than half a step above it.
  have half : greatest (Binary.format α) * 2 ^ (-((Binary.format α).mantissaBits : Int)) <
      2 ^ greatestGrid (Binary.format α) := by
    have scale := two_zpow_pos (-((Binary.format α).mantissaBits : Int))
    have less := (greatest_lt_threshold _).trans (threshold_lt_ceiling (Binary.format α))
    have whole : ceiling (Binary.format α) * 2 ^ (-((Binary.format α).mantissaBits : Int)) =
        2 ^ greatestGrid (Binary.format α) := by
      rw [ceiling, ← two_zpow_add, add_neg_cancel_right]
    rw [← whole]
    exact mul_lt_mul_of_pos_right less scale
  have atMost : greatest (Binary.format α) * (value (Arithmetic.one - fraction) + value fraction) ≤
      greatest (Binary.format α) *
        (1 + 2 ^ (-((Binary.format α).mantissaBits : Int)) / 2) :=
    mul_le_mul_of_nonneg_left (by linarith) ((abs_nonneg _).trans leftFinite.abs_le_greatest)
  have middle := threshold_eq (Binary.format α)
  calc _
    _ ≤ _ := abs_add_le _ _
    _ ≤ _ := add_le_add leftPart.2 rightPart.2
    _ < _ := by linarith

theorem isFinite_add_part {source step : α} (targetFinite : IsFinite (source + step))
    (widthFinite : IsFinite (source + step - source)) (inUnit : InUnit fraction) :
    IsFinite (source + (source + step - source) * fraction) := by
  have parts := targetFinite.of_add
  have part := widthFinite.mul_fraction inUnit
  have nonneg := inUnit.nonneg
  have le := inUnit.le_one
  rw [(computes_add parts.1 part.1).isFinite_iff]
  refine abs_add_part_lt wide parts.1.isNumber (abs_value_lt source) parts.2.isNumber
    ((computes_add parts.1 parts.2).rounds targetFinite) (abs_value_lt _)
    ((computes_sub targetFinite parts.1).rounds widthFinite) (abs_value_lt _) ?_
  have rounds := (computes_mul widthFinite inUnit.finite).rounds part.1
  rcases le_total 0 (value (source + step - source)) with ahead | behind
  · exact .inl ⟨rounds.le_of_ge (isNumber_zero _) (mul_nonneg ahead nonneg),
      rounds.le_of_le widthFinite.isNumber (mul_le_of_le_one_right ahead le)⟩
  · exact .inr ⟨rounds.le_of_ge widthFinite.isNumber (by nlinarith),
      rounds.le_of_le (isNumber_zero _) (mul_nonpos_of_nonpos_of_nonneg behind nonneg)⟩

end

end Number

end SpriteScript
