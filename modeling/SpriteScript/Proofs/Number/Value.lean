import SpriteScript.Number.Arithmetic
import SpriteScript.Proofs.Number.Nearest

namespace SpriteScript

/-! Binary numbers compute with exact values that are rounded: a result is the rounded exact
result, and it is finite exactly if that is not too great. Finite numbers are compared by their
values. -/

open Float.Model (Format UnpackedFloat)
open Float.Model.UnpackedFloat

namespace Number

/-! ## The order -/

section

variable {format : Format} {left right : UnpackedFloat}

theorem mul_zpow_lt {leftMantissa rightMantissa : Nat} {leftExponent rightExponent : Int}
    (short : leftMantissa < 2 ^ format.mantissaBits)
    (long : 2 ^ (format.mantissaBits - 1) ≤ rightMantissa) (less : leftExponent < rightExponent) :
    (leftMantissa : ℚ) * 2 ^ leftExponent < rightMantissa * 2 ^ rightExponent := by
  have shortCast : (leftMantissa : ℚ) < 2 ^ format.mantissaBits := by exact_mod_cast short
  have longCast : ((2 ^ (format.mantissaBits - 1) : Int) : ℚ) ≤ rightMantissa := by
    exact_mod_cast long
  calc (leftMantissa : ℚ) * 2 ^ leftExponent
    _ < 2 ^ format.mantissaBits * 2 ^ leftExponent :=
        mul_lt_mul_of_pos_right shortCast (two_zpow_pos _)
    _ = 2 ^ (leftExponent + format.mantissaBits) := (two_zpow_scaled format _).symm
    _ ≤ 2 ^ (rightExponent + format.mantissaBits - 1) := two_zpow_le.mpr (by omega)
    _ = ((2 ^ (format.mantissaBits - 1) : Int) : ℚ) * 2 ^ rightExponent := edge_eq format _
    _ ≤ _ := mul_le_mul_of_nonneg_right longCast (two_zpow_pos _).le

theorem compare_mul_right (left right : Nat) {scale : ℚ} (positive : 0 < scale) :
    compare (left * scale) (right * scale) = compare left right := by
  rcases lt_trichotomy left right with less | rfl | more
  · rw [compare_lt_iff_lt.mpr less, compare_lt_iff_lt]
    exact mul_lt_mul_of_pos_right (by exact_mod_cast less) positive
  · rw [compare_eq_iff_eq.mpr rfl, compare_eq_iff_eq.mpr rfl]
  · rw [compare_gt_iff_gt.mpr more, compare_gt_iff_gt]
    exact mul_lt_mul_of_pos_right (by exact_mod_cast more) positive

theorem compare_neg_neg (left right : ℚ) :
    compare (-left) (-right) = (compare left right).swap := by
  rcases lt_trichotomy left right with less | rfl | more
  · rw [compare_lt_iff_lt.mpr less, Ordering.swap_lt, compare_gt_iff_gt]
    exact neg_lt_neg less
  · rw [compare_eq_iff_eq.mpr rfl, compare_eq_iff_eq.mpr rfl, Ordering.swap_eq]
  · rw [compare_gt_iff_gt.mpr more, Ordering.swap_gt, compare_lt_iff_lt]
    exact neg_lt_neg more

theorem compare_magnitudes {leftSign rightSign : Sign} {leftMantissa rightMantissa : Nat}
    {leftExponent rightExponent : Int}
    {leftPositive : 0 < leftMantissa} {rightPositive : 0 < rightMantissa}
    (leftCanonical : IsCanonical format (.finite leftSign leftMantissa leftExponent leftPositive))
    (rightCanonical :
      IsCanonical format (.finite rightSign rightMantissa rightExponent rightPositive)) :
    (compare leftExponent rightExponent).then (compare leftMantissa rightMantissa) =
      compare ((leftMantissa : ℚ) * 2 ^ leftExponent) (rightMantissa * 2 ^ rightExponent) := by
  cases leftCanonical with
  | finite leftLeast leftShort leftLong =>
      cases rightCanonical with
      | finite rightLeast rightShort rightLong =>
          rcases lt_trichotomy leftExponent rightExponent with less | rfl | more
          · rw [compare_lt_iff_lt.mpr less, Ordering.lt_then, eq_comm, compare_lt_iff_lt]
            exact mul_zpow_lt leftShort (rightLong (by omega)) less
          · rw [compare_eq_iff_eq.mpr rfl, Ordering.eq_then]
            exact (compare_mul_right leftMantissa rightMantissa (two_zpow_pos _)).symm
          · rw [compare_gt_iff_gt.mpr more, Ordering.gt_then, eq_comm, compare_gt_iff_gt]
            exact mul_zpow_lt rightShort (leftLong (by omega)) more

theorem valueOf_positive {mantissa : Nat} (exponent : Int) (positive : 0 < mantissa) :
    valueOf (.finite .positive mantissa exponent positive) = mantissa * 2 ^ exponent := by
  rw [valueOf, Sign.apply, Int.cast_natCast]

theorem valueOf_negative {mantissa : Nat} (exponent : Int) (positive : 0 < mantissa) :
    valueOf (.finite .negative mantissa exponent positive) = -(mantissa * 2 ^ exponent) := by
  rw [valueOf, Sign.apply, Int.cast_neg, Int.cast_natCast, neg_mul]

theorem compare_eq (leftCanonical : IsCanonical format left)
    (rightCanonical : IsCanonical format right) :
    left.compare right = some (compare (valueOf left) (valueOf right)) := by
  have magnitude {mantissa : Nat} {exponent : Int} (positive : 0 < mantissa) :
      (0 : ℚ) < mantissa * 2 ^ exponent := by positivity
  rcases left with _ | _ | _ | ⟨_ | _, leftMantissa, leftExponent, leftPositive⟩
  case infinity | notANumber => cases leftCanonical
  case zero =>
    rcases right with _ | _ | _ | ⟨_ | _, rightMantissa, rightExponent, rightPositive⟩
    case infinity | notANumber => cases rightCanonical
    case zero => exact congrArg some (compare_eq_iff_eq.mpr rfl).symm
    case finite.negative =>
      refine congrArg some (compare_gt_iff_gt.mpr ?_).symm
      rw [valueOf_negative]
      exact neg_neg_of_pos (magnitude rightPositive)
    case finite.positive =>
      refine congrArg some (compare_lt_iff_lt.mpr ?_).symm
      rw [valueOf_positive]
      exact magnitude rightPositive
  case finite.negative =>
    have below : -((leftMantissa : ℚ) * 2 ^ leftExponent) < 0 :=
      neg_neg_of_pos (magnitude leftPositive)
    rcases right with _ | _ | _ | ⟨_ | _, rightMantissa, rightExponent, rightPositive⟩
    case infinity | notANumber => cases rightCanonical
    case zero =>
      refine congrArg some (compare_lt_iff_lt.mpr ?_).symm
      rw [valueOf_negative]
      exact below
    case finite.negative =>
      rw [valueOf_negative, valueOf_negative, compare_neg_neg,
        ← compare_magnitudes leftCanonical rightCanonical]
      rfl
    case finite.positive =>
      refine congrArg some (compare_lt_iff_lt.mpr ?_).symm
      rw [valueOf_negative, valueOf_positive]
      exact below.trans (magnitude rightPositive)
  case finite.positive =>
    have above : 0 < (leftMantissa : ℚ) * 2 ^ leftExponent := magnitude leftPositive
    rcases right with _ | _ | _ | ⟨_ | _, rightMantissa, rightExponent, rightPositive⟩
    case infinity | notANumber => cases rightCanonical
    case zero =>
      refine congrArg some (compare_gt_iff_gt.mpr ?_).symm
      rw [valueOf_positive]
      exact above
    case finite.negative =>
      refine congrArg some (compare_gt_iff_gt.mpr ?_).symm
      rw [valueOf_negative, valueOf_positive]
      exact (neg_neg_of_pos (magnitude rightPositive)).trans above
    case finite.positive =>
      rw [valueOf_positive, valueOf_positive, ← compare_magnitudes leftCanonical rightCanonical]
      rfl

theorem lt_iff (leftCanonical : IsCanonical format left)
    (rightCanonical : IsCanonical format right) :
    left.lt right = true ↔ valueOf left < valueOf right := by
  rw [UnpackedFloat.lt, compare_eq leftCanonical rightCanonical, ← compare_lt_iff_lt]
  cases compare (valueOf left) (valueOf right) <;> decide

theorem le_iff (leftCanonical : IsCanonical format left)
    (rightCanonical : IsCanonical format right) :
    left.le right = true ↔ valueOf left ≤ valueOf right := by
  rw [UnpackedFloat.le, compare_eq leftCanonical rightCanonical, ← compare_le_iff_le]
  cases compare (valueOf left) (valueOf right) <;> decide

theorem IsCanonical.eq_of_value (leftCanonical : IsCanonical format left)
    (rightCanonical : IsCanonical format right) (same : valueOf left = valueOf right)
    (nonzero : valueOf left ≠ 0) : left = right := by
  have compared := compare_eq leftCanonical rightCanonical
  rw [compare_eq_iff_eq.mpr same] at compared
  rcases left with _ | _ | _ | ⟨leftSign, leftMantissa, leftExponent, leftPositive⟩
  case infinity | notANumber => cases leftCanonical
  case zero => exact absurd (valueOf_zero _) nonzero
  rcases right with _ | _ | _ | ⟨rightSign, rightMantissa, rightExponent, rightPositive⟩
  case infinity | notANumber => cases rightCanonical
  case zero => exact absurd (same.trans (valueOf_zero _)) nonzero
  have parts : leftSign = rightSign ∧ leftExponent = rightExponent ∧
      leftMantissa = rightMantissa := by
    cases leftSign <;> cases rightSign <;>
      simp [UnpackedFloat.compare, Ordering.then_eq_eq] at compared
    all_goals exact ⟨rfl, compared⟩
  rcases parts with ⟨rfl, rfl, rfl⟩
  rfl

/-! ## Overflow -/

variable {number : UnpackedFloat} {exact : ℚ}

theorem IsRounded.isFinite_iff (rounded : IsRounded format exact number) (wide : IsWide format) :
    (unpack format (pack format number)).isFinite = true ↔ |exact| < threshold format := by
  rw [← rounded.rounds.lt_ceiling_iff wide]
  constructor
  · intro finite
    by_contra beyond
    rcases rounded.canonical.unpack_pack_of_le wide (not_lt.mp beyond) with ⟨sign, infinite⟩
    rw [infinite] at finite
    cases finite
  · intro less
    rw [rounded.canonical.unpack_pack wide less]
    exact rounded.canonical.isFinite

theorem IsRounded.rounds_unpack (rounded : IsRounded format exact number) (wide : IsWide format)
    (finite : (unpack format (pack format number)).isFinite = true) :
    Rounds format exact (valueOf (unpack format (pack format number))) := by
  have less := (rounded.rounds.lt_ceiling_iff wide).mpr ((rounded.isFinite_iff wide).mp finite)
  rw [rounded.canonical.unpack_pack wide less]
  exact rounded.rounds

theorem isFinite_unpack_pack (infinite : number.isFinite = false) :
    (unpack format (pack format number)).isFinite = false := by
  cases number with
  | zero | finite => cases infinite
  | infinity sign => exact congrArg isFinite (unpack_pack_infinity sign)
  | notANumber =>
      simp only [pack, packedNaN, unpack, unpackExponent_packComponents,
        unpackMantissa_packComponents, if_true]
      split_ifs <;> rfl

theorem isFinite_of_unpack_pack (finite : (unpack format (pack format number)).isFinite = true) :
    number.isFinite = true := by
  by_contra infinite
  rw [isFinite_unpack_pack (Bool.eq_false_of_not_eq_true infinite)] at finite
  cases finite

theorem isNaN_unpack_packComponents (sign : Sign) {exponent : BitVec format.exponentBits}
    (mantissa : BitVec format.mantissaBitsWithoutImplicit) (other : exponent ≠ -1#_) :
    (unpack format (packComponents format sign exponent mantissa)).isNaN = false := by
  simp only [unpack, unpackExponent_packComponents, if_neg other]
  split_ifs <;> rfl

theorem isNaN_unpack_pack (isNumber : number.isNaN = false) :
    (unpack format (pack format number)).isNaN = false := by
  cases number with
  | zero sign => exact congrArg isNaN (unpack_pack_zero sign)
  | infinity sign => exact congrArg isNaN (unpack_pack_infinity sign)
  | finite sign mantissa exponent positive =>
      dsimp only [pack]
      split_ifs with beyond
      · exact congrArg isNaN (unpack_pack_infinity sign)
      · refine isNaN_unpack_packComponents sign _ fun all => beyond ?_
        have exponents := congrArg BitVec.toNat all
        rw [BitVec.toNat_ofNat, BitVec.neg_one_eq_allOnes, BitVec.toNat_allOnes] at exponents
        have atMost := Nat.mod_le
          (exponent + format.exponentBias + format.mantissaBitsWithoutImplicit).toNat
          (2 ^ format.exponentBits)
        omega
      · exact isNaN_unpack_packComponents sign _ (zero_ne_allOnes format)
  | notANumber => cases isNumber

theorem isFinite_of_add (finite : (add format left right).isFinite = true) :
    left.isFinite = true ∧ right.isFinite = true := by
  cases left <;> cases right <;> try trivial
  case infinity.infinity =>
    rw [add] at finite
    split at finite <;> cases finite

theorem isFinite_of_mul (finite : (mul format left right).isFinite = true) :
    left.isFinite = true ∧ right.isFinite = true := by
  cases left <;> cases right <;> trivial

theorem isNaN_of_isFinite (finite : number.isFinite = true) : number.isNaN = false := by
  cases number with
  | zero | finite => rfl
  | infinity | notANumber => cases finite

theorem isNaN_roundWithAccuracy (sign : Sign) (mantissa : Nat) (exponent : Int)
    (accuracy : Accuracy) :
    (roundWithAccuracy format sign mantissa exponent accuracy).isNaN = false := by
  dsimp only [roundWithAccuracy]
  split <;> rfl

theorem isNaN_div (leftNumber : left.isNaN = false) {sign : Sign} {mantissa : Nat}
    {exponent : Int} (positive : 0 < mantissa) :
    (div format left (.finite sign mantissa exponent positive)).isNaN = false := by
  cases left with
  | infinity | zero => rfl
  | finite => exact isNaN_roundWithAccuracy _ _ _ _
  | notANumber => cases leftNumber

end

/-! ## Binary types -/

/-- Whether a binary type computes with exact values that are rounded. -/
class Rounding (α : Type) [Binary α] [Arithmetic α] : Prop where
  wide : IsWide (Binary.format α)
  packed (number : α) : ∃ bits, Binary.unpacked number = unpack (Binary.format α) bits
  unpacked_add (left right : α) : Binary.unpacked (left + right) =
    unpack (Binary.format α) (pack (Binary.format α)
      (add (Binary.format α) (Binary.unpacked left) (Binary.unpacked right)))
  unpacked_sub (left right : α) : Binary.unpacked (left - right) =
    unpack (Binary.format α) (pack (Binary.format α)
      (sub (Binary.format α) (Binary.unpacked left) (Binary.unpacked right)))
  unpacked_mul (left right : α) : Binary.unpacked (left * right) =
    unpack (Binary.format α) (pack (Binary.format α)
      (mul (Binary.format α) (Binary.unpacked left) (Binary.unpacked right)))
  unpacked_div (left right : α) : Binary.unpacked (left / right) =
    unpack (Binary.format α) (pack (Binary.format α)
      (div (Binary.format α) (Binary.unpacked left) (Binary.unpacked right)))
  lt_unpacked (left right : α) :
    left < right ↔ (Binary.unpacked left).lt (Binary.unpacked right) = true
  le_unpacked (left right : α) :
    left ≤ right ↔ (Binary.unpacked left).le (Binary.unpacked right) = true
  unpacked_zero : Binary.unpacked (Arithmetic.zero : α) = .zero .positive
  valueOf_one : valueOf (Binary.unpacked (Arithmetic.one : α)) = 1

instance : Rounding Float where
  wide := ⟨by decide, by decide⟩
  packed number := ⟨number.toModel.toBits.toBitVec, rfl⟩
  unpacked_add _ _ := rfl
  unpacked_sub _ _ := rfl
  unpacked_mul _ _ := rfl
  unpacked_div _ _ := rfl
  lt_unpacked _ _ := decide_eq_true_iff
  le_unpacked _ _ := decide_eq_true_iff
  unpacked_zero := rfl
  valueOf_one := by
    have unpacked : Binary.unpacked (Arithmetic.one : Float) =
        .finite .positive 4503599627370496 (-52) (by decide) := rfl
    rw [unpacked, valueOf_positive]
    norm_num

instance : Rounding Float32 where
  wide := ⟨by decide, by decide⟩
  packed number := ⟨number.toModel.toBits.toBitVec, rfl⟩
  unpacked_add _ _ := rfl
  unpacked_sub _ _ := rfl
  unpacked_mul _ _ := rfl
  unpacked_div _ _ := rfl
  lt_unpacked _ _ := decide_eq_true_iff
  le_unpacked _ _ := decide_eq_true_iff
  unpacked_zero := rfl
  valueOf_one := by
    have unpacked : Binary.unpacked (Arithmetic.one : Float32) =
        .finite .positive 8388608 (-23) (by decide) := rfl
    rw [unpacked, valueOf_positive]
    norm_num

section

variable {α : Type} [Binary α] {number left right : α} {exact : ℚ}

def value (number : α) : ℚ := valueOf (Binary.unpacked number)

def IsFinite (number : α) : Prop := (Binary.unpacked number).isFinite = true

/-- Whether a number is the rounded result of a computation, or not finite where that is too
great. -/
structure Computes (number : α) (exact : ℚ) : Prop where
  isFinite_iff : IsFinite number ↔ |exact| < threshold (Binary.format α)
  rounds : IsFinite number → Rounds (Binary.format α) exact (value number)

variable [Arithmetic α] [Rounding α]

theorem wide : IsWide (Binary.format α) := Rounding.wide

theorem IsFinite.canonical (finite : IsFinite number) :
    IsCanonical (Binary.format α) (Binary.unpacked number) := by
  rcases Rounding.packed number with ⟨bits, packed⟩
  rw [IsFinite, packed] at finite
  rw [packed]
  exact isCanonical_unpack finite

theorem IsFinite.isNumber (finite : IsFinite number) :
    IsNumber (Binary.format α) (value number) :=
  finite.canonical.isNumber

theorem abs_value_lt (number : α) : |value number| < ceiling (Binary.format α) := by
  rcases Rounding.packed number with ⟨bits, packed⟩
  rw [value, packed]
  exact lt_ceiling_of_unpack wide bits

theorem computes_of_isRounded {rounded : UnpackedFloat}
    (unpacked : Binary.unpacked number =
      unpack (Binary.format α) (pack (Binary.format α) rounded))
    (isRounded : IsRounded (Binary.format α) exact rounded) : Computes number exact := by
  constructor
  · rw [IsFinite, unpacked]
    exact isRounded.isFinite_iff wide
  · intro finite
    rw [IsFinite, unpacked] at finite
    rw [value, unpacked]
    exact isRounded.rounds_unpack wide finite

/-! ### Finite numbers -/

theorem computes_add (leftFinite : IsFinite left) (rightFinite : IsFinite right) :
    Computes (left + right) (value left + value right) :=
  computes_of_isRounded (Rounding.unpacked_add left right)
    (isRounded_add leftFinite.canonical rightFinite.canonical)

theorem computes_sub (leftFinite : IsFinite left) (rightFinite : IsFinite right) :
    Computes (left - right) (value left - value right) :=
  computes_of_isRounded (Rounding.unpacked_sub left right)
    (isRounded_sub leftFinite.canonical rightFinite.canonical)

theorem computes_mul (leftFinite : IsFinite left) (rightFinite : IsFinite right) :
    Computes (left * right) (value left * value right) :=
  computes_of_isRounded (Rounding.unpacked_mul left right)
    (isRounded_mul wide leftFinite.canonical rightFinite.canonical)

theorem computes_div (leftFinite : IsFinite left) (rightFinite : IsFinite right)
    (nonzero : value right ≠ 0) : Computes (left / right) (value left / value right) :=
  computes_of_isRounded (Rounding.unpacked_div left right)
    (isRounded_div leftFinite.canonical rightFinite.canonical nonzero)

theorem lt_iff_value (leftFinite : IsFinite left) (rightFinite : IsFinite right) :
    left < right ↔ value left < value right :=
  (Rounding.lt_unpacked left right).trans (lt_iff leftFinite.canonical rightFinite.canonical)

theorem le_iff_value (leftFinite : IsFinite left) (rightFinite : IsFinite right) :
    left ≤ right ↔ value left ≤ value right :=
  (Rounding.le_unpacked left right).trans (le_iff leftFinite.canonical rightFinite.canonical)

theorem isFinite_zero : IsFinite (Arithmetic.zero : α) := by
  rw [IsFinite, Rounding.unpacked_zero]
  rfl

theorem value_zero : value (Arithmetic.zero : α) = 0 := by
  rw [value, Rounding.unpacked_zero, valueOf_zero]

theorem value_one : value (Arithmetic.one : α) = 1 := Rounding.valueOf_one

theorem isFinite_one : IsFinite (Arithmetic.one : α) := by
  have one : valueOf (Binary.unpacked (Arithmetic.one : α)) = 1 := value_one
  rw [IsFinite]
  cases unpacked : Binary.unpacked (Arithmetic.one : α) with
  | zero | finite => rfl
  | infinity | notANumber =>
      rw [unpacked] at one
      exact absurd one zero_ne_one

/-! ### Other numbers -/

theorem IsFinite.of_add (finite : IsFinite (left + right)) : IsFinite left ∧ IsFinite right := by
  rw [IsFinite, Rounding.unpacked_add] at finite
  exact isFinite_of_add (isFinite_of_unpack_pack finite)

theorem IsFinite.of_mul (finite : IsFinite (left * right)) : IsFinite left ∧ IsFinite right := by
  rw [IsFinite, Rounding.unpacked_mul] at finite
  exact isFinite_of_mul (isFinite_of_unpack_pack finite)

theorem IsFinite.of_sub (finite : IsFinite (left - right)) : IsFinite left := by
  rw [IsFinite, Rounding.unpacked_sub] at finite
  have difference := isFinite_of_unpack_pack finite
  rw [sub_eq_add] at difference
  exact (isFinite_of_add difference).1

def IsOrdered (number : α) : Prop := (Binary.unpacked number).isNaN = false

theorem isOrdered_sub (leftFinite : IsFinite left) (rightFinite : IsFinite right) :
    IsOrdered (left - right) := by
  have rounded := isRounded_sub leftFinite.canonical rightFinite.canonical
  rw [IsOrdered, Rounding.unpacked_sub]
  exact isNaN_unpack_pack (isNaN_of_isFinite rounded.canonical.isFinite)

theorem isOrdered_div (ordered : IsOrdered left) (finite : IsFinite right)
    (nonzero : value right ≠ 0) : IsOrdered (left / right) := by
  have canonical := finite.canonical
  rw [value] at nonzero
  rw [IsOrdered, Rounding.unpacked_div]
  revert canonical nonzero
  generalize Binary.unpacked right = divisor
  intro nonzero canonical
  cases canonical with
  | zero sign => exact absurd (valueOf_zero sign) nonzero
  | @finite sign mantissa exponent positive => exact isNaN_unpack_pack (isNaN_div ordered positive)

theorem IsOrdered.isFinite_or (ordered : IsOrdered number) :
    IsFinite number ∨ number < Arithmetic.zero ∨ Arithmetic.one < number := by
  have one : IsFinite (Arithmetic.one : α) := isFinite_one
  rw [Rounding.lt_unpacked, Rounding.lt_unpacked, Rounding.unpacked_zero]
  rw [IsOrdered] at ordered
  rw [IsFinite] at one ⊢
  revert ordered one
  generalize Binary.unpacked number = unpacked
  generalize Binary.unpacked (Arithmetic.one : α) = unit
  intro ordered one
  cases unpacked with
  | zero | finite => exact .inl rfl
  | infinity sign =>
      cases sign with
      | negative => exact .inr (.inl rfl)
      | positive =>
          cases unit with
          | zero | finite => exact .inr (.inr rfl)
          | infinity | notANumber => cases one
  | notANumber => cases ordered

/-! ### The unit interval -/

structure InUnit (number : α) : Prop where
  finite : IsFinite number
  nonneg : 0 ≤ value number
  le_one : value number ≤ 1

theorem inUnit_zero : InUnit (Arithmetic.zero : α) :=
  ⟨isFinite_zero, value_zero.ge, value_zero.trans_le zero_le_one⟩

theorem inUnit_one : InUnit (Arithmetic.one : α) :=
  ⟨isFinite_one, zero_le_one.trans value_one.ge, value_one.le⟩

theorem Computes.inUnit (computes : Computes number exact) (nonneg : 0 ≤ exact)
    (le : exact ≤ 1) : InUnit number := by
  have less : |exact| < threshold (Binary.format α) := by
    rw [abs_of_nonneg nonneg]
    exact le.trans_lt (one_lt_threshold wide)
  have finite := computes.isFinite_iff.mpr less
  have rounds := computes.rounds finite
  exact ⟨finite, rounds.le_of_ge (isNumber_zero _) nonneg, rounds.le_of_le (isNumber_one wide) le⟩

theorem InUnit.one_sub (inUnit : InUnit number) : InUnit (Arithmetic.one - number) := by
  have nonneg := inUnit.nonneg
  have le := inUnit.le_one
  have computes := computes_sub isFinite_one inUnit.finite
  rw [value_one] at computes
  exact computes.inUnit (by linarith) (by linarith)

theorem InUnit.mul (leftUnit : InUnit left) (rightUnit : InUnit right) : InUnit (left * right) :=
  (computes_mul leftUnit.finite rightUnit.finite).inUnit
    (mul_nonneg leftUnit.nonneg rightUnit.nonneg)
    (mul_le_one₀ leftUnit.le_one rightUnit.nonneg rightUnit.le_one)

theorem inUnit_clampUnit (ordered : IsOrdered number) : InUnit (Arithmetic.clampUnit number) := by
  rw [Arithmetic.clampUnit]
  by_cases below : number < Arithmetic.zero
  · rw [if_pos below]
    split_ifs
    · exact inUnit_one
    · exact inUnit_zero
  · rw [if_neg below]
    by_cases above : Arithmetic.one < number
    · rw [if_pos above]
      exact inUnit_one
    · rw [if_neg above]
      have finite : IsFinite number := by
        rcases ordered.isFinite_or with finite | less | more
        · exact finite
        · exact absurd less below
        · exact absurd more above
      rw [lt_iff_value finite isFinite_zero, value_zero, not_lt] at below
      rw [lt_iff_value isFinite_one finite, value_one, not_lt] at above
      exact ⟨finite, below, above⟩

end

/-! ### Single width -/

theorem computes_single {number : Float} (finite : IsFinite number) :
    Computes (single number) (value number) := by
  have canonical := finite.canonical
  rw [value]
  cases found : Binary.unpacked number with
  | zero sign =>
      have unpacked : Binary.unpacked (single number) =
          unpack .binary32 (pack .binary32 (.zero sign)) := by
        rw [single, show number.toModel.unpack = _ from found]
        rfl
      exact computes_of_isRounded unpacked (IsCanonical.zero sign).isRounded
  | finite sign mantissa exponent positive =>
      have unpacked : Binary.unpacked (single number) =
          unpack .binary32 (pack .binary32 (.round .binary32 sign mantissa exponent)) := by
        rw [single, show number.toModel.unpack = _ from found]
        rfl
      exact computes_of_isRounded unpacked (isRounded_round sign positive exponent)
  | _ =>
      rw [found] at canonical
      cases canonical

theorem single_eq_of_unpacked {left right : Float32} (finite : IsFinite left)
    (same : Binary.unpacked left = Binary.unpacked right) : left = right := by
  rcases left with ⟨⟨⟨left⟩, leftValid⟩⟩
  rcases right with ⟨⟨⟨right⟩, rightValid⟩⟩
  cases (unpack_injective finite same : left = right)
  rfl

theorem single_eq_of_rounds {number : Float} (finite : IsFinite number) {rounded : Float32}
    (roundedFinite : IsFinite rounded) (nonzero : value rounded ≠ 0)
    (rounds : Rounds .binary32 (value number) (value rounded)) : single number = rounded := by
  have computes := computes_single finite
  have less := (rounds.lt_ceiling_iff (wide (α := Float32))).mp (abs_value_lt rounded)
  have singleFinite := computes.isFinite_iff.mpr less
  have same : value rounded = value (single number) :=
    rounds.unique (computes.rounds singleFinite)
  exact (single_eq_of_unpacked roundedFinite
    (roundedFinite.canonical.eq_of_value singleFinite.canonical same nonzero)).symm

theorem unpacked_neg {number : Float} (finite : IsFinite number) :
    Binary.unpacked (-number) = (Binary.unpacked number).neg := by
  have less := abs_value_lt number
  rw [value, ← abs_neg, ← valueOf_neg] at less
  exact finite.canonical.neg.unpack_pack (wide (α := Float)) less

theorem InUnit.single {number : Float} (inUnit : InUnit number) : InUnit (single number) :=
  (computes_single inUnit.finite).inUnit inUnit.nonneg inUnit.le_one

end Number

end SpriteScript
