import SpriteScript.Proofs.Number.Exact

namespace SpriteScript

/-! Sums, differences, products and quotients of exact values are rounded to the nearest number.
Bits that are shifted out of a mantissa leave behind which side of the middle they were on, and
so does the remainder of a division; that is all that rounding needs. -/

open Float.Model (Format UnpackedFloat totalExponent)
open Float.Model.UnpackedFloat

namespace Number

/-! ## Shifting -/

/-- Whether the bits of an extended mantissa tell where a value is. -/
def Describes : ExtendedMantissa → ℚ → Prop
  | ⟨mantissa, false, false⟩, value => value = mantissa
  | ⟨mantissa, false, true⟩, value => mantissa < value ∧ value < mantissa + 1 / 2
  | ⟨mantissa, true, false⟩, value => value = mantissa + 1 / 2
  | ⟨mantissa, true, true⟩, value => mantissa + 1 / 2 < value ∧ value < mantissa + 1

theorem Describes.shiftRightOne {extended : ExtendedMantissa} {value : ℚ}
    (describes : Describes extended value) : Describes extended.shiftRightOne (value / 2) := by
  rcases extended with ⟨mantissa, roundBit, stickyBit⟩
  rcases Nat.even_or_odd' mantissa with ⟨half, rfl | rfl⟩
  · have quotient : 2 * half / 2 = half := by omega
    have last : (2 * half % 2 != 0) = false := by simp
    cases roundBit <;> cases stickyBit <;>
      simp only [Describes, ExtendedMantissa.shiftRightOne, quotient, last, Bool.or_true,
        Bool.or_false, Nat.cast_mul, Nat.cast_ofNat] at describes ⊢
    all_goals first | linarith | constructor <;> linarith
  · have quotient : (2 * half + 1) / 2 = half := by omega
    have last : ((2 * half + 1) % 2 != 0) = true := by simp [Nat.add_mod]
    cases roundBit <;> cases stickyBit <;>
      simp only [Describes, ExtendedMantissa.shiftRightOne, quotient, last, Bool.or_true,
        Bool.or_false, Nat.cast_add, Nat.cast_mul, Nat.cast_ofNat, Nat.cast_one] at describes ⊢
    all_goals first | linarith | constructor <;> linarith

theorem Describes.shiftRight {extended : ExtendedMantissa} {value : ℚ}
    (describes : Describes extended value) (count : Nat) :
    Describes (extended >>> count) (value / 2 ^ count) := by
  induction count with
  | zero =>
      rw [pow_zero, div_one]
      exact describes
  | succ count previous =>
      rw [pow_succ, ← div_div]
      exact previous.shiftRightOne

theorem Describes.rounded {extended : ExtendedMantissa} {value : ℚ}
    (describes : Describes extended value) :
    |value - extended.roundedMantissa| ≤ 1 / 2 ∧
      (|value - extended.roundedMantissa| = 1 / 2 → Even extended.roundedMantissa) := by
  rcases extended with ⟨mantissa, _ | _, _ | _⟩ <;>
    simp only [Describes, ExtendedMantissa.roundedMantissa, ExtendedMantissa.accuracy,
      Accuracy.roundToNearestEven] at describes ⊢
  · rw [describes, sub_self, abs_zero]
    norm_num
  · rw [abs_of_pos (by linarith)]
    exact ⟨by linarith, fun _ => absurd describes.2 (by linarith)⟩
  · rcases Nat.mod_two_eq_zero_or_one mantissa with even | odd
    · rw [even, add_zero, describes, add_sub_cancel_left]
      exact ⟨by norm_num, fun _ => Nat.even_iff.mpr even⟩
    · rw [odd, describes, Nat.cast_add, Nat.cast_one, add_sub_add_left_eq_sub]
      refine ⟨by norm_num, fun _ => Nat.even_iff.mpr ?_⟩
      omega
  · rw [Nat.cast_add, Nat.cast_one, abs_of_neg (by linarith)]
    refine ⟨by linarith, fun _ => absurd describes.1 (by linarith)⟩

theorem Describes.bounds {extended : ExtendedMantissa} {value : ℚ}
    (describes : Describes extended value) :
    extended.mantissa ≤ value ∧ value < extended.mantissa + 1 := by
  rcases extended with ⟨mantissa, _ | _, _ | _⟩ <;> simp only [Describes] at describes ⊢ <;>
    constructor <;> linarith

theorem mantissa_ofMantissaAndAccuracy (mantissa : Nat) (accuracy : Accuracy) :
    (ExtendedMantissa.ofMantissaAndAccuracy mantissa accuracy).mantissa = mantissa := by
  rcases accuracy with _ | _ | _ | _ <;> rfl

theorem describes_div (dividend : Nat) {divisor : Nat} (positive : 0 < divisor) :
    Describes (.ofMantissaAndAccuracy (dividend / divisor)
      (accuracyOfFraction (dividend % divisor) divisor)) ((dividend : ℚ) / divisor) := by
  have unit : (0 : ℚ) < divisor := by exact_mod_cast positive
  have whole : (dividend : ℚ) / divisor =
      (dividend / divisor : Nat) + ((dividend % divisor : Nat) : ℚ) / divisor := by
    rw [div_eq_iff unit.ne', add_mul, div_mul_cancel₀ _ unit.ne', mul_comm]
    exact_mod_cast (Nat.div_add_mod dividend divisor).symm
  have less : ((dividend % divisor : Nat) : ℚ) < divisor := by
    exact_mod_cast Nat.mod_lt dividend positive
  rw [whole]
  generalize dividend / divisor = quotient
  generalize dividend % divisor = remainder at less ⊢
  rcases Nat.eq_zero_or_pos remainder with rfl | some
  · simp [accuracyOfFraction, ExtendedMantissa.ofMantissaAndAccuracy, Describes]
  · have someCast : (0 : ℚ) < remainder := by exact_mod_cast some
    rw [accuracyOfFraction, if_neg some.ne']
    rcases lt_trichotomy (2 * remainder) divisor with below | middle | above
    · have belowCast : 2 * (remainder : ℚ) < divisor := by exact_mod_cast below
      rw [compare_lt_iff_lt.mpr below]
      refine ⟨lt_add_of_pos_right _ (div_pos someCast unit), ?_⟩
      rw [add_lt_add_iff_left, div_lt_div_iff₀ unit two_pos]
      linarith
    · have middleCast : 2 * (remainder : ℚ) = divisor := by exact_mod_cast middle
      rw [compare_eq_iff_eq.mpr middle, ← middleCast]
      change _ = _
      field_simp
    · have aboveCast : (divisor : ℚ) < 2 * remainder := by exact_mod_cast above
      rw [compare_gt_iff_gt.mpr above]
      refine ⟨?_, ?_⟩
      · rw [add_lt_add_iff_left, div_lt_div_iff₀ two_pos unit]
        linarith
      · rw [add_lt_add_iff_left, div_lt_one unit]
        exact less

/-! ## Rounding -/

structure IsRounded (format : Format) (value : ℚ) (number : UnpackedFloat) : Prop where
  canonical : IsCanonical format number
  rounds : Rounds format value (valueOf number)

variable {format : Format} {value : ℚ} {number : UnpackedFloat}

theorem IsGrid.rounds_self {grid mantissa : Int} (isGrid : IsGrid format value grid)
    (multiple : value = mantissa * 2 ^ grid) : Rounds format value value := by
  have positive := half_pos (two_zpow_pos grid)
  refine ⟨grid, mantissa, isGrid, multiple, ?_⟩
  rw [sub_self, abs_zero]
  exact ⟨positive.le, fun middle => absurd middle positive.ne⟩

theorem IsCanonical.isRounded (canonical : IsCanonical format number) :
    IsRounded format (valueOf number) number := by
  refine ⟨canonical, ?_⟩
  cases number with
  | zero sign =>
      have isGrid : IsGrid format (valueOf (.zero sign)) format.minExponent := by
        refine ⟨le_rfl, ?_, fun least => absurd least (lt_irrefl _)⟩
        rw [valueOf, abs_zero]
        exact two_zpow_pos _
      have multiple : valueOf (.zero sign) = (0 : Int) * 2 ^ format.minExponent := by simp [valueOf]
      exact isGrid.rounds_self multiple
  | finite sign mantissa exponent positive =>
      cases canonical with
      | finite least short long =>
          have unit := two_zpow_pos exponent
          have isGrid : IsGrid format (valueOf (.finite sign mantissa exponent positive))
              exponent := by
            refine ⟨least, ?_, fun above => ?_⟩
            · rw [abs_valueOf_finite, two_zpow_scaled]
              exact mul_lt_mul_of_pos_right (by exact_mod_cast short) unit
            · rw [abs_valueOf_finite, edge_eq]
              exact mul_le_mul_of_nonneg_right (by exact_mod_cast long above) unit.le
          exact isGrid.rounds_self rfl
  | infinity | notANumber => cases canonical

theorem isGrid_targetExponent {mantissa : Nat} {exponent : Int} {exact : ℚ}
    (lower : mantissa ≤ exact) (upper : exact < mantissa + 1)
    (le : exponent ≤ format.targetExponent (totalExponent mantissa exponent)) :
    IsGrid format (exact * 2 ^ exponent)
      (format.targetExponent (totalExponent mantissa exponent)) := by
  have scale := two_zpow_pos exponent
  have bits := format.hm
  have width : format.mantissaBits = 1 + format.mantissaBitsWithoutImplicit := rfl
  have nonneg : 0 ≤ exact * 2 ^ exponent :=
    mul_nonneg ((Nat.cast_nonneg mantissa).trans lower) scale.le
  have whole (count : Nat) : (2 : ℚ) ^ (count + exponent) = 2 ^ count * 2 ^ exponent := by
    rw [two_zpow_add, zpow_natCast]
  refine ⟨le_max_right _ _, ?_, fun above => ?_⟩
  · have log : ((mantissa + 1 : Nat) : ℚ) ≤ 2 ^ (mantissa.log2 + 1) := by
      exact_mod_cast Nat.lt_log2_self
    push_cast at log
    rw [abs_of_nonneg nonneg]
    calc exact * 2 ^ exponent
      _ < 2 ^ (mantissa.log2 + 1) * 2 ^ exponent :=
          mul_lt_mul_of_pos_right (upper.trans_le log) scale
      _ = 2 ^ (((mantissa.log2 + 1 : Nat) : Int) + exponent) := (whole _).symm
      _ ≤ _ := by
          rw [Format.targetExponent, totalExponent]
          exact two_zpow_le.mpr (by omega)
  · rw [Format.targetExponent, totalExponent] at above le ⊢
    have positive : mantissa ≠ 0 := by
      rintro rfl
      rw [Nat.log2_zero] at above le
      omega
    have log : (2 : ℚ) ^ mantissa.log2 ≤ mantissa := by
      exact_mod_cast Nat.log2_self_le positive
    rw [abs_of_nonneg nonneg]
    calc _ ≤ (2 : ℚ) ^ ((mantissa.log2 : Int) + exponent) := two_zpow_le.mpr (by omega)
      _ = 2 ^ mantissa.log2 * 2 ^ exponent := whole _
      _ ≤ exact * 2 ^ exponent := mul_le_mul_of_nonneg_right (log.trans lower) scale.le

theorem apply_one (sign : Sign) (number : Int) : sign.apply number = sign.apply 1 * number := by
  cases sign with
  | negative => exact (neg_one_mul number).symm
  | positive => exact (one_mul number).symm

theorem Rounds.signed {other : ℚ} (rounds : Rounds format value other) (sign : Sign) :
    Rounds format (sign.apply 1 * value) (sign.apply 1 * other) := by
  cases sign with
  | positive => simpa [Sign.apply] using rounds
  | negative => simpa [Sign.apply] using rounds.neg

theorem IsGrid.rounded_bounds {grid : Int} (isGrid : IsGrid format value grid) (nonneg : 0 ≤ value)
    {rounded : Nat} (near : |value - rounded * 2 ^ grid| ≤ 2 ^ grid / 2) :
    rounded ≤ 2 ^ format.mantissaBits ∧
      (format.minExponent < grid → 2 ^ (format.mantissaBits - 1) ≤ rounded) := by
  have unit := two_zpow_pos grid
  have bounds := abs_le.mp near
  have cast : (rounded : ℚ) = ((rounded : Int) : ℚ) := (Int.cast_natCast rounded).symm
  rw [cast] at bounds
  constructor
  · have below := isGrid.below
    have edge : (2 : ℚ) ^ (grid + format.mantissaBits) =
        ((2 ^ format.mantissaBits : Int) : ℚ) * 2 ^ grid := by
      rw [two_zpow_scaled]
      push_cast
      rfl
    rw [abs_of_nonneg nonneg, edge] at below
    by_contra beyond
    have less : (2 ^ format.mantissaBits : Int) < rounded := by exact_mod_cast not_le.mp beyond
    have step := multiple_step grid less
    linarith
  · intro least
    have above := isGrid.above least
    rw [abs_of_nonneg nonneg, edge_eq] at above
    by_contra beyond
    have less : (rounded : Int) < 2 ^ (format.mantissaBits - 1) := by
      exact_mod_cast not_le.mp beyond
    have step := multiple_step grid less
    linarith

/-- The second shift, after a mantissa was rounded up to a power of two, loses nothing. -/
theorem shiftToTargetExponent_rounded {rounded : Nat} {grid : Int}
    (least : format.minExponent ≤ grid) (atMost : rounded ≤ 2 ^ format.mantissaBits)
    (long : format.minExponent < grid → 2 ^ (format.mantissaBits - 1) ≤ rounded) :
    ∃ extended exponent, shiftToTargetExponent format rounded grid .exact = (extended, exponent) ∧
      (extended.mantissa : ℚ) * 2 ^ exponent = rounded * 2 ^ grid ∧
      format.minExponent ≤ exponent ∧ extended.mantissa < 2 ^ format.mantissaBits ∧
      (format.minExponent < exponent → 2 ^ (format.mantissaBits - 1) ≤ extended.mantissa) := by
  have bits := mantissaBits_pos format
  rcases Nat.lt_or_eq_of_le atMost with short | rfl
  · have log : rounded.log2 < format.mantissaBits := by
      rcases Nat.eq_zero_or_pos rounded with rfl | positive
      · simpa using bits
      · exact (Nat.log2_lt positive.ne').mpr short
    have none : (format.targetExponent (totalExponent rounded grid) - grid).toNat = 0 := by
      rw [Format.targetExponent, totalExponent]
      omega
    refine ⟨⟨rounded, false, false⟩, grid, ?_, rfl, least, short, long⟩
    simp only [shiftToTargetExponent, shiftToExponent, none]
    exact congrArg _ (add_zero grid)
  · have one : (format.targetExponent (totalExponent (2 ^ format.mantissaBits) grid) -
        grid).toNat = 1 := by
      rw [Format.targetExponent, totalExponent, Nat.log2_two_pow]
      omega
    have power : 2 ^ format.mantissaBits = 2 * 2 ^ (format.mantissaBits - 1) := by
      exact_mod_cast (two_pow_pred format).symm
    have half : (ExtendedMantissa.shiftRightOne ⟨2 ^ format.mantissaBits, false, false⟩).mantissa =
        2 ^ (format.mantissaBits - 1) := by
      rw [power]
      exact Nat.mul_div_cancel_left _ (by decide)
    refine ⟨ExtendedMantissa.shiftRightOne ⟨2 ^ format.mantissaBits, false, false⟩, grid + 1,
      ?_, ?_, by omega, ?_, fun _ => half.ge⟩
    · simp only [shiftToTargetExponent, shiftToExponent, one]
      rfl
    · rw [half, power, two_zpow_succ]
      push_cast
      ring
    · rw [half, power]
      exact lt_mul_of_one_lt_left (by positivity) (by decide)

theorem rounded_shiftRight {extended : ExtendedMantissa} {exact : ℚ} {exponent grid : Int}
    (describes : Describes extended exact) (le : exponent ≤ grid)
    {left : ExtendedMantissa} (shifted : extended >>> (grid - exponent).toNat = left) :
    |exact * 2 ^ exponent - left.roundedMantissa * 2 ^ grid| ≤ 2 ^ grid / 2 ∧
      (|exact * 2 ^ exponent - left.roundedMantissa * 2 ^ grid| = 2 ^ grid / 2 →
        Even left.roundedMantissa) := by
  have unit := two_zpow_pos grid
  have rounded := (describes.shiftRight (grid - exponent).toNat).rounded
  rw [shifted] at rounded
  -- In units of the grid the shifted value is the value itself.
  have scaled : exact / 2 ^ (grid - exponent).toNat * 2 ^ grid = exact * 2 ^ exponent := by
    have power : (2 : ℚ) ^ grid = 2 ^ (grid - exponent).toNat * 2 ^ exponent := by
      rw [← zpow_natCast, ← two_zpow_add, Int.toNat_of_nonneg (by omega), sub_add_cancel]
    rw [power, ← mul_assoc, div_mul_cancel₀ _ (by positivity)]
  have half : (2 : ℚ) ^ grid / 2 = 1 / 2 * 2 ^ grid := by ring
  rw [← scaled, ← sub_mul, abs_mul, abs_of_pos unit, half]
  exact ⟨mul_le_mul_of_nonneg_right rounded.1 unit.le,
    fun middle => rounded.2 (mul_right_cancel₀ unit.ne' middle)⟩

theorem roundWithAccuracy_eq (sign : Sign) {mantissa : Nat} {exponent grid finalExponent : Int}
    {accuracy : Accuracy} {left last : ExtendedMantissa}
    (target : format.targetExponent (totalExponent mantissa exponent) = grid)
    (le : exponent ≤ grid)
    (shifted : ExtendedMantissa.ofMantissaAndAccuracy mantissa accuracy >>>
      (grid - exponent).toNat = left)
    (again : shiftToTargetExponent format left.roundedMantissa grid .exact =
      (last, finalExponent)) :
    roundWithAccuracy format sign mantissa exponent accuracy =
      if zero : last.mantissa = 0 then .zero sign
      else .finite sign last.mantissa finalExponent (Nat.pos_of_ne_zero zero) := by
  have shift : exponent + (grid - exponent).toNat = grid := by omega
  have first : shiftToTargetExponent format mantissa exponent accuracy = (left, grid) := by
    simp only [shiftToTargetExponent, shiftToExponent, target, shift, shifted]
  simp only [roundWithAccuracy, first, again]

/-- A value whose whole part is not too short is rounded without decreasing its exponent. -/
theorem isRounded_roundWithAccuracy (sign : Sign) {mantissa : Nat} {exponent : Int}
    {accuracy : Accuracy} {exact : ℚ}
    (describes : Describes (.ofMantissaAndAccuracy mantissa accuracy) exact)
    (le : exponent ≤ format.targetExponent (totalExponent mantissa exponent)) :
    IsRounded format (sign.apply 1 * (exact * 2 ^ exponent))
      (roundWithAccuracy format sign mantissa exponent accuracy) := by
  have inside := describes.bounds
  rw [mantissa_ofMantissaAndAccuracy] at inside
  have isGrid := isGrid_targetExponent inside.1 inside.2 le
  generalize target : format.targetExponent (totalExponent mantissa exponent) = grid at le isGrid
  generalize shifted : ExtendedMantissa.ofMantissaAndAccuracy mantissa accuracy >>>
    (grid - exponent).toNat = left
  rcases rounded_shiftRight describes le shifted with ⟨near, even⟩
  have nonneg : 0 ≤ exact * 2 ^ exponent :=
    mul_nonneg ((Nat.cast_nonneg mantissa).trans inside.1) (two_zpow_pos exponent).le
  have bounds := isGrid.rounded_bounds nonneg near
  rcases shiftToTargetExponent_rounded isGrid.least bounds.1 bounds.2 with
    ⟨last, finalExponent, again, same, least, short, long⟩
  have rounds : Rounds format (exact * 2 ^ exponent) (last.mantissa * 2 ^ finalExponent) := by
    refine ⟨grid, left.roundedMantissa, isGrid, ?_⟩
    rw [same, Int.cast_natCast]
    exact ⟨rfl, near, fun middle => (Int.even_coe_nat _).mpr (even middle)⟩
  have signed := rounds.signed sign
  rw [roundWithAccuracy_eq sign target le shifted again]
  split
  case isTrue zero =>
    rw [zero, Nat.cast_zero, zero_mul, mul_zero] at signed
    exact ⟨.zero sign, signed⟩
  case isFalse =>
    refine ⟨.finite least short long, ?_⟩
    rw [valueOf, apply_one sign last.mantissa, Int.cast_mul, Int.cast_natCast, mul_assoc]
    exact signed

theorem isRounded_exact (sign : Sign) {mantissa : Nat} {exponent : Int}
    (le : exponent ≤ format.targetExponent (totalExponent mantissa exponent)) :
    IsRounded format (sign.apply mantissa * 2 ^ exponent)
      (roundWithAccuracy format sign mantissa exponent .exact) := by
  have describes : Describes (.ofMantissaAndAccuracy mantissa .exact) mantissa := rfl
  have rounded : IsRounded format _ _ := isRounded_roundWithAccuracy sign describes le
  rwa [← mul_assoc, ← Int.cast_natCast mantissa, ← Int.cast_mul, ← apply_one] at rounded

theorem log2_shiftLeft {mantissa : Nat} (positive : 0 < mantissa) (count : Nat) :
    (mantissa <<< count).log2 = mantissa.log2 + count := by
  have bounds := (Nat.log2_eq_iff positive.ne').mp rfl
  have power : 0 < 2 ^ count := by positivity
  rw [Nat.shiftLeft_eq, Nat.log2_eq_iff (by positivity), pow_add, Nat.add_right_comm, pow_add]
  exact ⟨Nat.mul_le_mul_right _ bounds.1, Nat.mul_lt_mul_of_pos_right bounds.2 power⟩

theorem shiftLeft_mul_zpow (mantissa count : Nat) (exponent : Int) :
    ((mantissa <<< count : Nat) : ℚ) * 2 ^ (exponent - count) = mantissa * 2 ^ exponent := by
  rw [Nat.shiftLeft_eq, Nat.cast_mul, Nat.cast_pow, Nat.cast_ofNat, mul_assoc, ← zpow_natCast,
    ← two_zpow_add, add_sub_cancel]

theorem signed_shiftLeft (sign : Sign) (mantissa count : Nat) (exponent : Int) :
    (sign.apply ((mantissa <<< count : Nat) : Int) : ℚ) * 2 ^ (exponent - count) =
      sign.apply mantissa * 2 ^ exponent := by
  have kept := shiftLeft_mul_zpow mantissa count exponent
  cases sign with
  | positive => exact kept
  | negative => simp only [Sign.apply, Int.cast_neg, Int.cast_natCast, neg_mul, kept]

theorem isRounded_round (sign : Sign) {mantissa : Nat} (positive : 0 < mantissa)
    (exponent : Int) :
    IsRounded format (sign.apply mantissa * 2 ^ exponent)
      (UnpackedFloat.round format sign mantissa exponent) := by
  have total (count : Nat) : totalExponent (mantissa <<< count) (exponent - count) =
      totalExponent mantissa exponent := by
    rw [totalExponent, totalExponent, log2_shiftLeft positive]
    omega
  rw [UnpackedFloat.round, ← signed_shiftLeft sign mantissa
    (exponent - format.targetExponent (totalExponent mantissa exponent)).toNat]
  refine isRounded_exact sign ?_
  rw [total]
  omega

theorem isRounded_normalize (mantissa exponent : Int) (zeroSign : Sign) :
    IsRounded format (mantissa * 2 ^ exponent)
      (UnpackedFloat.normalize format mantissa exponent zeroSign) := by
  rcases lt_trichotomy mantissa 0 with less | rfl | more
  · have negated : 0 < (-mantissa).toNat := by omega
    have rounded : IsRounded format _ _ := isRounded_round .negative negated exponent
    have same : Sign.negative.apply ((-mantissa).toNat : Int) = mantissa := by
      rw [Sign.apply]
      omega
    rw [same] at rounded
    rwa [UnpackedFloat.normalize, Int.compare_eq_lt.mpr less]
  · rw [Int.cast_zero, zero_mul]
    exact (IsCanonical.zero zeroSign).isRounded
  · have positive : 0 < mantissa.toNat := by omega
    have rounded : IsRounded format _ _ := isRounded_round .positive positive exponent
    have same : Sign.positive.apply (mantissa.toNat : Int) = mantissa := by
      rw [Sign.apply]
      omega
    rw [same] at rounded
    rwa [UnpackedFloat.normalize, Int.compare_eq_gt.mpr more]

/-! ## Sums, differences and products -/

variable {left right : UnpackedFloat}

theorem isRounded_add (leftCanonical : IsCanonical format left)
    (rightCanonical : IsCanonical format right) :
    IsRounded format (valueOf left + valueOf right) (add format left right) := by
  cases left with
  | zero leftSign =>
      cases right with
      | zero rightSign =>
          rw [valueOf_zero, valueOf_zero, add_zero, add]
          split
          · exact leftCanonical.isRounded
          · exact (IsCanonical.zero .positive).isRounded
      | finite =>
          rw [valueOf_zero, zero_add]
          exact rightCanonical.isRounded
      | infinity | notANumber => cases rightCanonical
  | finite leftSign leftMantissa leftExponent leftPositive =>
      cases right with
      | zero rightSign =>
          rw [valueOf_zero, add_zero]
          exact leftCanonical.isRounded
      | finite rightSign rightMantissa rightExponent rightPositive =>
          have aligned (sign : Sign) (mantissa : Nat) {lesser exponent : Int}
              (le : lesser ≤ exponent) :
              (sign.apply ((mantissa <<< (exponent - lesser).toNat : Nat) : Int) : ℚ) *
                2 ^ lesser = sign.apply mantissa * 2 ^ exponent := by
            rw [← signed_shiftLeft sign mantissa (exponent - lesser).toNat exponent]
            congr 2
            omega
          rw [valueOf, valueOf, ← aligned leftSign leftMantissa (min_le_left _ rightExponent),
            ← aligned rightSign rightMantissa (min_le_right leftExponent _), ← add_mul,
            ← Int.cast_add]
          exact isRounded_normalize _ _ _
      | infinity | notANumber => cases rightCanonical
  | infinity | notANumber => cases leftCanonical

theorem sub_eq_add (left right : UnpackedFloat) :
    sub format left right = add format left right.neg := by
  cases left with
  | finite leftSign leftMantissa leftExponent leftPositive =>
      cases right with
      | finite rightSign rightMantissa rightExponent rightPositive =>
          dsimp only [sub, add, UnpackedFloat.neg]
          rw [apply_neg, sub_eq_add_neg]
      | zero | infinity | notANumber => rfl
  | zero | infinity | notANumber => cases right <;> rfl

theorem isRounded_sub (leftCanonical : IsCanonical format left)
    (rightCanonical : IsCanonical format right) :
    IsRounded format (valueOf left - valueOf right) (sub format left right) := by
  rw [sub_eq_add, sub_eq_add_neg, ← valueOf_neg]
  exact isRounded_add leftCanonical rightCanonical.neg

theorem add_le_targetExponent (wide : IsWide format) {leftMantissa rightMantissa : Nat}
    {leftExponent rightExponent : Int} {leftSign rightSign : Sign}
    {leftPositive : 0 < leftMantissa} {rightPositive : 0 < rightMantissa}
    (leftCanonical : IsCanonical format (.finite leftSign leftMantissa leftExponent leftPositive))
    (rightCanonical :
      IsCanonical format (.finite rightSign rightMantissa rightExponent rightPositive)) :
    leftExponent + rightExponent ≤ format.targetExponent
      (totalExponent (leftMantissa * rightMantissa) (leftExponent + rightExponent)) := by
  have least := wide.least
  rw [Format.targetExponent, totalExponent]
  by_contra beyond
  have positive : 0 < leftMantissa * rightMantissa := Nat.mul_pos leftPositive rightPositive
  have short : leftMantissa * rightMantissa < 2 ^ (format.mantissaBits - 1) :=
    (Nat.log2_lt positive.ne').mp (by omega)
  have leftShort := (Nat.le_mul_of_pos_right leftMantissa rightPositive).trans_lt short
  have rightShort := (Nat.le_mul_of_pos_left rightMantissa leftPositive).trans_lt short
  cases leftCanonical with
  | finite leftLeast _ leftLong =>
      cases rightCanonical with
      | finite rightLeast _ rightLong =>
          have leftSame := mt leftLong (not_le.mpr leftShort)
          have rightSame := mt rightLong (not_le.mpr rightShort)
          omega

theorem apply_mul (leftSign rightSign : Sign) (left right : Int) :
    (leftSign * rightSign).apply (left * right) = leftSign.apply left * rightSign.apply right := by
  cases leftSign <;> cases rightSign
  case negative.negative => exact (neg_mul_neg left right).symm
  case negative.positive => exact (neg_mul left right).symm
  case positive.negative => exact (mul_neg left right).symm
  case positive.positive => rfl

theorem isRounded_mul (wide : IsWide format) (leftCanonical : IsCanonical format left)
    (rightCanonical : IsCanonical format right) :
    IsRounded format (valueOf left * valueOf right) (mul format left right) := by
  cases left with
  | zero leftSign =>
      rw [valueOf_zero, zero_mul]
      cases right with
      | zero | finite => exact (IsCanonical.zero _).isRounded
      | infinity | notANumber => cases rightCanonical
  | finite leftSign leftMantissa leftExponent leftPositive =>
      cases right with
      | zero rightSign =>
          rw [valueOf_zero, mul_zero]
          exact (IsCanonical.zero _).isRounded
      | finite rightSign rightMantissa rightExponent rightPositive =>
          have rounded : IsRounded format _ _ :=
            isRounded_exact (leftSign * rightSign)
              (add_le_targetExponent wide leftCanonical rightCanonical)
          rw [Nat.cast_mul, apply_mul, Int.cast_mul, two_zpow_add, mul_mul_mul_comm] at rounded
          exact rounded
      | infinity | notANumber => cases rightCanonical
  | infinity | notANumber => cases leftCanonical

/-- The quotient of two mantissas is not too short: the dividend is shifted far enough. -/
theorem divCore_le_targetExponent {leftMantissa rightMantissa : Nat}
    (leftPositive : 0 < leftMantissa) (rightPositive : 0 < rightMantissa)
    {leftExponent rightExponent exponent : Int}
    (chosen : min (leftExponent - rightExponent) (format.targetExponent
      (totalExponent leftMantissa leftExponent - totalExponent rightMantissa rightExponent)) =
        exponent) :
    exponent ≤ format.targetExponent (totalExponent
      ((leftMantissa <<< (leftExponent - rightExponent - exponent).toNat) / rightMantissa)
      exponent) := by
  by_contra beyond
  rw [Format.targetExponent, totalExponent] at beyond
  rw [Format.targetExponent, totalExponent, totalExponent] at chosen
  have shifted := log2_shiftLeft leftPositive (leftExponent - rightExponent - exponent).toNat
  generalize leftMantissa <<< (leftExponent - rightExponent - exponent).toNat = dividend
    at shifted beyond
  -- The quotient has as many bits as the difference of the lengths, or one fewer.
  have bits : dividend.log2 < (dividend / rightMantissa).log2 + 1 + (rightMantissa.log2 + 1) := by
    rcases Nat.eq_zero_or_pos dividend with rfl | some
    · rw [Nat.log2_zero]
      omega
    rw [Nat.log2_lt some.ne', pow_add]
    calc dividend
      _ < rightMantissa * (dividend / rightMantissa + 1) :=
          Nat.lt_mul_div_succ dividend rightPositive
      _ ≤ 2 ^ (rightMantissa.log2 + 1) * 2 ^ ((dividend / rightMantissa).log2 + 1) :=
          Nat.mul_le_mul Nat.lt_log2_self.le Nat.lt_log2_self
      _ = _ := mul_comm _ _
  omega

theorem apply_div (leftSign rightSign : Sign) :
    ((leftSign / rightSign).apply 1 : ℚ) = leftSign.apply 1 / rightSign.apply 1 := by
  cases leftSign <;> cases rightSign
  case negative.negative => exact (div_self (by norm_num [Sign.apply])).symm
  case negative.positive => exact (div_one _).symm
  case positive.negative =>
    norm_num [Sign.apply, show Sign.positive / .negative = .negative from rfl]
  case positive.positive => exact (div_one _).symm

theorem isRounded_div (leftCanonical : IsCanonical format left)
    (rightCanonical : IsCanonical format right) (nonzero : valueOf right ≠ 0) :
    IsRounded format (valueOf left / valueOf right) (div format left right) := by
  cases right with
  | zero rightSign => exact absurd (valueOf_zero rightSign) nonzero
  | finite rightSign rightMantissa rightExponent rightPositive =>
      cases left with
      | zero leftSign =>
          rw [valueOf_zero, zero_div]
          exact (IsCanonical.zero _).isRounded
      | finite leftSign leftMantissa leftExponent leftPositive =>
          generalize chosen : min (leftExponent - rightExponent) (format.targetExponent
            (totalExponent leftMantissa leftExponent -
              totalExponent rightMantissa rightExponent)) = exponent
          have describes := describes_div
            (leftMantissa <<< (leftExponent - rightExponent - exponent).toNat) rightPositive
          have rounded : IsRounded format _ _ :=
            isRounded_roundWithAccuracy (leftSign / rightSign) describes
              (divCore_le_targetExponent leftPositive rightPositive chosen)
          have kept := shiftLeft_mul_zpow leftMantissa
            (leftExponent - rightExponent - exponent).toNat leftExponent
          have powers : (2 : ℚ) ^ (leftExponent - (leftExponent - rightExponent - exponent).toNat) =
              2 ^ exponent * 2 ^ rightExponent := by
            rw [← two_zpow_add]
            congr 1
            omega
          have magnitude :
              ((leftMantissa <<< (leftExponent - rightExponent - exponent).toNat : Nat) : ℚ) /
                rightMantissa * 2 ^ exponent =
              leftMantissa * 2 ^ leftExponent / (rightMantissa * 2 ^ rightExponent) := by
            rw [← kept, powers, ← mul_assoc, mul_div_mul_right _ _ (two_zpow_pos _).ne',
              div_mul_eq_mul_div]
          rw [valueOf, valueOf, apply_one leftSign leftMantissa,
            apply_one rightSign rightMantissa, Int.cast_mul, Int.cast_mul, Int.cast_natCast,
            Int.cast_natCast, mul_assoc, mul_assoc, mul_div_mul_comm, ← magnitude, ← apply_div]
          simp only [div, divCore, chosen]
          exact rounded
      | infinity | notANumber => cases leftCanonical
  | infinity | notANumber => cases rightCanonical

end Number

end SpriteScript
