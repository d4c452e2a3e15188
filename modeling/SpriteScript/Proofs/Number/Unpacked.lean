import Mathlib.Algebra.Group.Nat.Defs
import SpriteScript.Number.Binary

namespace SpriteScript

/-! The exact values of packed numbers. -/

open Float.Model (Format UnpackedFloat)
open Float.Model.UnpackedFloat

inductive Unpacks {format : Format} (bits : BitVec format.numBits) : UnpackedFloat → Prop
  | special {number : UnpackedFloat} (all : unpackExponent bits = -1#_)
      (infinite : number.isFinite = false) : Unpacks bits number
  | zero (sign : Sign) (none : unpackExponent bits = 0#_) : Unpacks bits (.zero sign)
  | small (sign : Sign) (none : unpackExponent bits = 0#_)
      (positive : 0 < (unpackMantissa bits).toNat) :
      Unpacks bits (.finite sign (unpackMantissa bits).toNat
        ((unpackExponent bits).toNat - (format.exponentBias + format.mantissaBitsWithoutImplicit)
          + 1) positive)
  | normal (sign : Sign) (other : unpackExponent bits ≠ -1#_) (some : unpackExponent bits ≠ 0#_)
      (positive : 0 < (1#1 ++ unpackMantissa bits).toNat) :
      Unpacks bits (.finite sign (1#1 ++ unpackMantissa bits).toNat
        ((unpackExponent bits).toNat - (format.exponentBias + format.mantissaBitsWithoutImplicit))
        positive)

theorem unpacks_unpack {format : Format} (bits : BitVec format.numBits) :
    Unpacks bits (unpack format bits) := by
  delta unpack
  dsimp only
  by_cases all : unpackExponent bits = -1#_
  · rw [if_pos all]
    split <;> exact .special all rfl
  · rw [if_neg all]
    by_cases none : unpackExponent bits = 0#_
    · rw [if_pos none]
      by_cases empty : unpackMantissa bits = 0#_
      · rw [dif_pos empty]
        exact .zero _ none
      · rw [dif_neg empty]
        exact .small _ none _
    · rw [if_neg none]
      exact .normal _ all none _

/-! ## Mantissas -/

theorem Binary.narrowBelow_iff {format : Format} {mantissa : Nat} {exponent : Int} :
    narrowBelow format mantissa exponent = true ↔
      mantissa = 2 ^ format.mantissaBitsWithoutImplicit ∧ format.minExponent < exponent := by
  rw [narrowBelow, Bool.and_eq_true, beq_iff_eq, decide_eq_true_iff]
  rfl

/-- The mantissas of a binary type fit its format, which is not wider than 53 bits. -/
class Binary.Lawful (α : Type) [Binary α] : Prop where
  bits_le : (Binary.format α).mantissaBitsWithoutImplicit ≤ 52
  mantissa_lt (number : α) {sign mantissa exponent positive} :
    Binary.unpacked number = .finite sign mantissa exponent positive →
      mantissa < 2 ^ ((Binary.format α).mantissaBitsWithoutImplicit + 1)

theorem mantissa_lt_of_unpack {format : Format} {bits : BitVec format.numBits}
    {sign mantissa exponent positive}
    (unpacked : unpack format bits = .finite sign mantissa exponent positive) :
    mantissa < 2 ^ (format.mantissaBitsWithoutImplicit + 1) := by
  have unpacks := unpacks_unpack bits
  rw [unpacked] at unpacks
  cases unpacks with
  | special all infinite => cases infinite
  | small sign none positive =>
      exact Nat.lt_trans (BitVec.isLt _) (Nat.pow_lt_pow_succ (by decide))
  | normal sign other some positive =>
      exact Nat.lt_of_lt_of_eq (BitVec.isLt _) (congrArg (2 ^ ·) (Nat.add_comm ..))

instance : Binary.Lawful Float where
  bits_le := by decide
  mantissa_lt _ _ _ _ _ unpacked := mantissa_lt_of_unpack unpacked

instance : Binary.Lawful Float32 where
  bits_le := by decide
  mantissa_lt _ _ _ _ _ unpacked := mantissa_lt_of_unpack unpacked

end SpriteScript
