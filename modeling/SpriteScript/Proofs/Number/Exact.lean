import Mathlib
import SpriteScript.Proofs.Number.Rounding
import SpriteScript.Proofs.Number.Unpacked

namespace SpriteScript

/-! Exact values of binary numbers. A finite number is packed without loss; one that is too
great becomes infinite. -/

open Float.Model (Format UnpackedFloat)
open Float.Model.UnpackedFloat

namespace Number

/-- The exact value of a finite number; what is not finite counts as zero. -/
def valueOf : UnpackedFloat → ℚ
  | .finite sign mantissa exponent _ => sign.apply mantissa * 2 ^ exponent
  | .zero _ | .infinity _ | .notANumber => 0

/-- A finite number whose mantissa is as long as its exponent allows. The exponent may be too
great to be packed. -/
inductive IsCanonical (format : Format) : UnpackedFloat → Prop
  | zero (sign : Sign) : IsCanonical format (.zero sign)
  | finite {sign : Sign} {mantissa : Nat} {exponent : Int} {positive : 0 < mantissa}
      (least : format.minExponent ≤ exponent) (short : mantissa < 2 ^ format.mantissaBits)
      (long : format.minExponent < exponent → 2 ^ (format.mantissaBits - 1) ≤ mantissa) :
      IsCanonical format (.finite sign mantissa exponent positive)

variable {format : Format} {number : UnpackedFloat}

@[simp]
theorem valueOf_zero (sign : Sign) : valueOf (.zero sign) = 0 := rfl

theorem apply_neg (sign : Sign) (number : Int) : (-sign).apply number = -sign.apply number := by
  cases sign with
  | negative => exact (neg_neg _).symm
  | positive => rfl

theorem valueOf_neg (number : UnpackedFloat) : valueOf number.neg = -valueOf number := by
  cases number with
  | finite sign mantissa exponent positive =>
      simp [UnpackedFloat.neg, valueOf, apply_neg]
  | _ => exact neg_zero.symm

theorem abs_valueOf_finite (sign : Sign) {mantissa : Nat} (exponent : Int)
    (positive : 0 < mantissa) :
    |valueOf (.finite sign mantissa exponent positive)| = mantissa * 2 ^ exponent := by
  have nonneg : (0 : ℚ) ≤ mantissa * 2 ^ exponent := by positivity
  cases sign <;> simp [valueOf, Sign.apply, abs_of_nonneg, nonneg]

theorem IsCanonical.isFinite (canonical : IsCanonical format number) :
    number.isFinite = true := by
  cases canonical <;> rfl

theorem IsCanonical.neg (canonical : IsCanonical format number) :
    IsCanonical format number.neg := by
  cases canonical with
  | zero sign => exact .zero _
  | finite least short long => exact .finite least short long

theorem IsCanonical.isNumber (canonical : IsCanonical format number) :
    IsNumber format (valueOf number) := by
  cases canonical with
  | zero sign => exact isNumber_zero format
  | @finite sign mantissa exponent positive least short long =>
      have isNumber : IsNumber format (((mantissa : Int) : ℚ) * 2 ^ exponent) :=
        isNumber_of_le (Int.natCast_nonneg _) (by exact_mod_cast short.le) least
      cases sign with
      | positive => exact isNumber
      | negative => simpa [valueOf, Sign.apply] using isNumber.neg

theorem IsCanonical.lt_ceiling_iff {sign : Sign} {mantissa : Nat} {exponent : Int}
    {positive : 0 < mantissa}
    (canonical : IsCanonical format (.finite sign mantissa exponent positive))
    (wide : IsWide format) :
    |valueOf (.finite sign mantissa exponent positive)| < ceiling format ↔
      exponent ≤ greatestGrid format := by
  rw [abs_valueOf_finite]
  cases canonical with
  | finite least short long =>
      constructor
      · intro less
        by_contra beyond
        have longCast : (2 : ℚ) ^ (format.mantissaBits - 1) ≤ mantissa := by
          exact_mod_cast long (by have := wide.ceiling; omega)
        have scaled := mul_le_mul_of_nonneg_right longCast (two_zpow_pos exponent).le
        have edge := edge_eq format exponent
        push_cast at edge
        rw [← edge] at scaled
        have exponents := two_zpow_lt.mp (scaled.trans_lt less)
        omega
      · intro atMost
        have shortCast : (mantissa : ℚ) < 2 ^ format.mantissaBits := by exact_mod_cast short
        have scaled := mul_lt_mul_of_pos_right shortCast (two_zpow_pos exponent)
        rw [← two_zpow_scaled] at scaled
        exact scaled.trans_le (two_zpow_le.mpr (by omega))

/-! ## Packing -/

theorem minExponent_eq (format : Format) :
    format.minExponent = 1 - (format.exponentBias + format.mantissaBitsWithoutImplicit) := by
  have power : 1 ≤ 2 ^ (format.exponentBits - 1) := Nat.one_le_two_pow
  simp only [Format.minExponent, Format.exponentBias, Format.mantissaBits]
  push_cast [power]
  ring

theorem zero_ne_allOnes (format : Format) :
    BitVec.ofNat format.exponentBits 0 ≠ -1#_ := by
  have bits := Nat.ne_of_gt format.he
  simpa using bits

theorem unpack_pack_zero (sign : Sign) : unpack format (pack format (.zero sign)) = .zero sign := by
  have bits := Nat.ne_of_gt format.he
  simp [pack, packedZero, unpack, bits]

theorem unpack_pack_infinity (sign : Sign) :
    unpack format (packedInfinity format sign) = .infinity sign := by
  simp [packedInfinity, unpack]

theorem unpack_packed_small (sign : Sign) {mantissa : Nat} (positive : 0 < mantissa)
    (short : mantissa < 2 ^ format.mantissaBitsWithoutImplicit) :
    unpack format (packComponents format sign 0#_ (BitVec.ofNat _ mantissa)) =
      .finite sign mantissa format.minExponent positive := by
  have kept : (BitVec.ofNat format.mantissaBitsWithoutImplicit mantissa).toNat = mantissa := by
    rw [BitVec.toNat_ofNat, Nat.mod_eq_of_lt short]
  have nonzero : BitVec.ofNat format.mantissaBitsWithoutImplicit mantissa ≠ 0#_ := by
    intro zero
    rw [zero, BitVec.toNat_zero] at kept
    omega
  unfold unpack
  simp only [unpackMantissa_packComponents, unpackExponent_packComponents,
    unpackSign_packComponents, Sign.ofBitVec_toBitVec, kept, if_neg (zero_ne_allOnes format),
    if_true, dif_neg nonzero, BitVec.toNat_zero, minExponent_eq]
  congr 1
  push_cast
  ring

theorem unpack_packed_normal (sign : Sign) {mantissa biased : Nat} (positive : 0 < mantissa)
    (short : mantissa < 2 ^ format.mantissaBits)
    (long : 2 ^ format.mantissaBitsWithoutImplicit ≤ mantissa)
    (some : 0 < biased) (less : biased + 1 < 2 ^ format.exponentBits) :
    unpack format (packComponents format sign (BitVec.ofNat _ biased) (BitVec.ofNat _ mantissa)) =
      .finite sign mantissa
        (biased - (format.exponentBias + format.mantissaBitsWithoutImplicit)) positive := by
  have keptExponent : (BitVec.ofNat format.exponentBits biased).toNat = biased := by
    rw [BitVec.toNat_ofNat, Nat.mod_eq_of_lt (by omega)]
  have nonzero : BitVec.ofNat format.exponentBits biased ≠ 0#_ := by
    intro zero
    rw [zero, BitVec.toNat_zero] at keptExponent
    omega
  have notAll : BitVec.ofNat format.exponentBits biased ≠ -1#_ := by
    intro all
    rw [all, BitVec.neg_one_eq_allOnes, BitVec.toNat_allOnes] at keptExponent
    omega
  have kept : (BitVec.ofNat format.mantissaBitsWithoutImplicit mantissa).toNat =
      mantissa - 2 ^ format.mantissaBitsWithoutImplicit := by
    have twice : 2 ^ format.mantissaBits = 2 ^ format.mantissaBitsWithoutImplicit +
        2 ^ format.mantissaBitsWithoutImplicit := by
      rw [Format.mantissaBits, pow_add, pow_one, two_mul]
    rw [BitVec.toNat_ofNat, Nat.mod_eq_sub_mod long, Nat.mod_eq_of_lt (by omega)]
  have whole : (1#1 ++ BitVec.ofNat format.mantissaBitsWithoutImplicit mantissa).toNat =
      mantissa := by
    rw [BitVec.toNat_append, ← Nat.shiftLeft_add_eq_or_of_lt (BitVec.isLt _), kept,
      Nat.shiftLeft_eq, BitVec.toNat_one (by decide), one_mul]
    omega
  unfold unpack
  simp only [unpackMantissa_packComponents, unpackExponent_packComponents,
    unpackSign_packComponents, Sign.ofBitVec_toBitVec, keptExponent, if_neg notAll, if_neg nonzero,
    whole]

/-- A number is packed without loss exactly if its exponent is not too great. -/
theorem pack_finite_of_lt (sign : Sign) {mantissa : Nat} {exponent : Int} (positive : 0 < mantissa)
    (beyond : greatestGrid format < exponent) :
    pack format (.finite sign mantissa exponent positive) = packedInfinity format sign := by
  have power : 1 ≤ 2 ^ format.exponentBits := Nat.one_le_two_pow
  have powerCast : ((2 ^ format.exponentBits : Nat) : Int) = 2 ^ format.exponentBits := by simp
  rw [greatestGrid] at beyond
  exact if_pos (by omega)

theorem IsCanonical.unpack_pack_finite {sign : Sign} {mantissa : Nat} {exponent : Int}
    {positive : 0 < mantissa}
    (canonical : IsCanonical format (.finite sign mantissa exponent positive))
    (atMost : exponent ≤ greatestGrid format) :
    unpack format (pack format (.finite sign mantissa exponent positive)) =
      .finite sign mantissa exponent positive := by
  have powerCast : ((2 ^ format.exponentBits : Nat) : Int) = 2 ^ format.exponentBits := by simp
  cases canonical with
  | finite least short long =>
      rw [greatestGrid] at atMost
      rw [minExponent_eq] at least
      have packs : ¬2 ^ format.exponentBits ≤
          (exponent + format.exponentBias + format.mantissaBitsWithoutImplicit).toNat + 1 := by
        omega
      dsimp only [pack]
      rw [if_neg packs]
      have bits : mantissa.log2 + 1 = format.mantissaBits ↔
          2 ^ format.mantissaBitsWithoutImplicit ≤ mantissa := by
        rw [Format.mantissaBits, add_comm] at short ⊢
        rw [add_left_cancel_iff, Nat.log2_eq_iff positive.ne', and_iff_left short]
      by_cases normal : 2 ^ format.mantissaBitsWithoutImplicit ≤ mantissa
      · rw [if_pos (bits.mpr normal),
          unpack_packed_normal sign positive short normal (by omega) (by omega)]
        congr 1
        omega
      · have same : exponent = format.minExponent := by
          by_contra other
          rw [Format.mantissaBits, Nat.add_sub_cancel_left] at long
          exact normal (long (by rw [minExponent_eq] at other ⊢; omega))
        rw [if_neg (mt bits.mp normal), unpack_packed_small sign positive (not_le.mp normal), same]

theorem IsCanonical.unpack_pack (canonical : IsCanonical format number) (wide : IsWide format)
    (less : |valueOf number| < ceiling format) : unpack format (pack format number) = number := by
  cases number with
  | zero sign => exact unpack_pack_zero sign
  | finite => exact canonical.unpack_pack_finite ((canonical.lt_ceiling_iff wide).mp less)
  | infinity | notANumber => cases canonical

theorem IsCanonical.unpack_pack_of_le (canonical : IsCanonical format number) (wide : IsWide format)
    (beyond : ceiling format ≤ |valueOf number|) :
    ∃ sign, unpack format (pack format number) = .infinity sign := by
  cases number with
  | zero sign =>
      rw [valueOf, abs_zero] at beyond
      exact absurd (two_zpow_pos _) (not_lt.mpr beyond)
  | finite sign mantissa exponent positive =>
      have tooGreat := mt (canonical.lt_ceiling_iff wide).mpr (not_lt.mpr beyond)
      rw [pack_finite_of_lt sign positive (not_le.mp tooGreat)]
      exact ⟨sign, unpack_pack_infinity sign⟩
  | infinity | notANumber => cases canonical

/-! ## Unpacking -/

theorem unpackExponent_bounds {bits : BitVec format.numBits}
    (other : unpackExponent bits ≠ -1#_) (some : unpackExponent bits ≠ 0#_) :
    0 < (unpackExponent bits).toNat ∧
      (unpackExponent bits).toNat + 1 < 2 ^ format.exponentBits := by
  rw [BitVec.neg_one_eq_allOnes, ne_eq, ← BitVec.toNat_inj, BitVec.toNat_allOnes] at other
  rw [ne_eq, ← BitVec.toNat_inj, BitVec.toNat_zero] at some
  have bound := BitVec.isLt (unpackExponent bits)
  omega

theorem isCanonical_unpack {bits : BitVec format.numBits}
    (finite : (unpack format bits).isFinite = true) : IsCanonical format (unpack format bits) := by
  have unpacks := unpacks_unpack bits
  revert finite unpacks
  generalize unpack format bits = number
  intro finite unpacks
  cases unpacks with
  | special all infinite => exact absurd finite (infinite ▸ Bool.false_ne_true)
  | zero sign none => exact .zero sign
  | small sign none positive =>
      have short := BitVec.isLt (unpackMantissa bits)
      have power : 2 ^ format.mantissaBits = 2 * 2 ^ format.mantissaBitsWithoutImplicit := by
        rw [Format.mantissaBits, pow_add, pow_one]
      rw [none, BitVec.toNat_zero]
      refine .finite ?_ (by omega) ?_
      all_goals
        rw [minExponent_eq]
        omega
  | normal sign other some positive =>
      have bounds := unpackExponent_bounds other some
      refine .finite ?_ (BitVec.isLt _) fun _ => ?_
      · rw [minExponent_eq]
        omega
      · rw [BitVec.toNat_append, ← Nat.shiftLeft_add_eq_or_of_lt (BitVec.isLt _),
          Nat.shiftLeft_eq, BitVec.toNat_one (by decide), one_mul, Format.mantissaBits,
          Nat.add_sub_cancel_left]
        exact Nat.le_add_right _ _

theorem getLsbD_of_extractLsb {width other first last index : Nat} {left right : BitVec width}
    {length : last - first + 1 = other}
    (same : (left.extractLsb last first).cast length = (right.extractLsb last first).cast length)
    (atLeast : first ≤ index) (atMost : index ≤ last) :
    left.getLsbD index = right.getLsbD index := by
  have bit := congrArg (BitVec.getLsbD · (index - first)) same
  simp only [BitVec.getLsbD_cast, BitVec.getLsbD_extractLsb, Nat.add_sub_cancel' atLeast] at bit
  rwa [decide_eq_true (by omega), Bool.true_and, Bool.true_and] at bit

theorem eq_of_unpacked_parts {bits other : BitVec format.numBits}
    (sign : unpackSign bits = unpackSign other)
    (exponent : unpackExponent bits = unpackExponent other)
    (mantissa : unpackMantissa bits = unpackMantissa other) : bits = other := by
  have width := format.hm
  have parts := format.he
  refine BitVec.eq_of_getLsbD_eq fun index less => ?_
  have less : index < 1 + format.exponentBits + format.mantissaBitsWithoutImplicit := less
  rcases Nat.lt_or_ge index format.mantissaBitsWithoutImplicit with low | beyond
  · exact getLsbD_of_extractLsb mantissa (Nat.zero_le _) (by omega)
  · rcases Nat.lt_or_ge index (format.mantissaBitsWithoutImplicit + format.exponentBits) with
      middle | high
    · exact getLsbD_of_extractLsb exponent beyond (by omega)
    · exact getLsbD_of_extractLsb sign high (by omega)

theorem ofBitVec_injective {left right : BitVec 1}
    (same : Sign.ofBitVec left = Sign.ofBitVec right) : left = right := by
  rcases BitVec.eq_zero_or_eq_one left with rfl | rfl <;>
    rcases BitVec.eq_zero_or_eq_one right with rfl | rfl <;> first | rfl | cases same

theorem unpack_injective {bits other : BitVec format.numBits}
    (finite : (unpack format bits).isFinite = true)
    (same : unpack format bits = unpack format other) : bits = other := by
  have less := BitVec.isLt (unpackMantissa bits)
  have otherLess := BitVec.isLt (unpackMantissa other)
  have whole (mantissa : BitVec format.mantissaBitsWithoutImplicit) :
      (1#1 ++ mantissa).toNat = 2 ^ format.mantissaBitsWithoutImplicit + mantissa.toNat := by
    rw [BitVec.toNat_append, ← Nat.shiftLeft_add_eq_or_of_lt (BitVec.isLt _),
      Nat.shiftLeft_eq, BitVec.toNat_one (by decide), one_mul]
  unfold unpack at finite same
  simp only [whole] at finite same
  split_ifs at finite same <;> try cases finite
  all_goals
    first | cases same | simp only [UnpackedFloat.zero.injEq, UnpackedFloat.finite.injEq] at same
  · next none empty _ otherNone otherEmpty =>
      exact eq_of_unpacked_parts (ofBitVec_injective same) (none.trans otherNone.symm)
        (empty.trans otherEmpty.symm)
  · next none _ _ otherNone _ =>
      exact eq_of_unpacked_parts (ofBitVec_injective same.1) (none.trans otherNone.symm)
        (BitVec.eq_of_toNat_eq same.2.1)
  · omega
  · omega
  · exact eq_of_unpacked_parts (ofBitVec_injective same.1) (BitVec.eq_of_toNat_eq (by omega))
      (BitVec.eq_of_toNat_eq (by omega))

theorem lt_ceiling_of_unpack (wide : IsWide format) (bits : BitVec format.numBits) :
    |valueOf (unpack format bits)| < ceiling format := by
  have nonzero : |(0 : ℚ)| < ceiling format := by
    rw [abs_zero]
    exact two_zpow_pos _
  have canonical := @isCanonical_unpack format bits
  have unpacks := unpacks_unpack bits
  have least := wide.ceiling
  revert canonical unpacks
  generalize unpack format bits = number
  intro canonical unpacks
  cases unpacks with
  | special all infinite =>
      cases number with
      | infinity | notANumber => exact nonzero
      | zero | finite => cases infinite
  | zero sign none => exact nonzero
  | small sign none positive =>
      rw [(canonical rfl).lt_ceiling_iff wide, none, BitVec.toNat_zero]
      rw [minExponent_eq] at least
      omega
  | normal sign other some positive =>
      have bounds := unpackExponent_bounds other some
      have powerCast : ((2 ^ format.exponentBits : Nat) : Int) = 2 ^ format.exponentBits := by simp
      rw [(canonical rfl).lt_ceiling_iff wide, greatestGrid]
      omega

end Number

end SpriteScript
