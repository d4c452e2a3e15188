import SpriteScript.Proofs.Number.Unpacked

namespace SpriteScript

/-! Numbers that are read are finite. Rounding keeps an exponent within the bounds of the exact
result, and only exponents that are too great become infinite. -/

open Float.Model (Format UnpackedFloat totalExponent)
open Float.Model.UnpackedFloat

namespace Number

inductive IsWithin (limit : Int) : UnpackedFloat → Prop
  | zero (sign : Sign) : IsWithin limit (.zero sign)
  | finite {sign : Sign} {mantissa : Nat} {exponent : Int} {positive : 0 < mantissa}
      (fits : mantissa < 2 ^ 53) (atMost : exponent ≤ limit) :
      IsWithin limit (.finite sign mantissa exponent positive)

/-- A finite number that has all bits of its mantissa and is not less than eight, its sign
apart. -/
inductive IsLarge : UnpackedFloat → Prop
  | finite {sign : Sign} {mantissa : Nat} {exponent : Int} {positive : 0 < mantissa}
      (long : 2 ^ 52 ≤ mantissa) (large : -49 ≤ exponent) :
      IsLarge (.finite sign mantissa exponent positive)

instance (limit : Int) (number : UnpackedFloat) : Decidable (IsWithin limit number) :=
  match number with
  | .zero sign => .isTrue (.zero sign)
  | .finite _ mantissa exponent _ =>
      decidable_of_iff (mantissa < 2 ^ 53 ∧ exponent ≤ limit)
        ⟨fun ⟨fits, atMost⟩ => .finite fits atMost, fun | .finite fits atMost => ⟨fits, atMost⟩⟩
  | .infinity _ | .notANumber => .isFalse nofun

instance (number : UnpackedFloat) : Decidable (IsLarge number) :=
  match number with
  | .finite _ mantissa exponent _ =>
      decidable_of_iff (2 ^ 52 ≤ mantissa ∧ -49 ≤ exponent)
        ⟨fun ⟨long, large⟩ => .finite long large, fun | .finite long large => ⟨long, large⟩⟩
  | .zero _ | .infinity _ | .notANumber => .isFalse nofun

theorem IsWithin.isFinite {limit : Int} {number : UnpackedFloat} (within : IsWithin limit number) :
    number.isFinite = true := by
  cases within <;> rfl

theorem IsLarge.isFinite {number : UnpackedFloat} (large : IsLarge number) :
    number.isFinite = true := by
  cases large
  rfl

theorem IsWithin.trans {limit greater : Int} {number : UnpackedFloat}
    (within : IsWithin limit number) (atMost : limit ≤ greater) : IsWithin greater number := by
  cases within with
  | zero sign => exact .zero sign
  | finite fits below => exact .finite fits (Int.le_trans below atMost)

/-! ## Packing -/

def greatestExponent : Int := 971

theorem exponentBias_double : Format.exponentBias .binary64 = 1023 := by decide

theorem mantissaBits_double : Format.mantissaBitsWithoutImplicit .binary64 = 52 := rfl

section

variable {bits : BitVec (Format.numBits .binary64)} {number : UnpackedFloat}

theorem isWithin_of_unpacks (unpacks : Unpacks bits number)
    (other : unpackExponent bits ≠ -1#11) :
    IsWithin (max (unpackExponent bits).toNat 1 - 1075) number := by
  cases unpacks with
  | special all infinite => exact absurd all other
  | zero sign none => exact .zero sign
  | small sign none positive =>
      have fits : (unpackMantissa bits).toNat < 2 ^ 52 := BitVec.isLt _
      refine .finite (Nat.lt_trans fits (by decide)) ?_
      rw [exponentBias_double, mantissaBits_double, none]
      decide
  | normal sign other some positive =>
      refine .finite (BitVec.isLt _) ?_
      rw [exponentBias_double, mantissaBits_double]
      omega

theorem isLarge_of_unpacks (unpacks : Unpacks bits number) (other : unpackExponent bits ≠ -1#11)
    (large : 1026 ≤ (unpackExponent bits).toNat) : IsLarge number := by
  have nonzero : unpackExponent bits ≠ 0#11 := by
    intro zero
    rw [zero] at large
    exact absurd large (by decide)
  cases unpacks with
  | special all infinite => exact absurd all other
  | zero sign none => exact absurd none nonzero
  | small sign none positive => exact absurd none nonzero
  | normal sign other some positive =>
      refine .finite ?_ ?_
      · rw [BitVec.toNat_append]
        exact Nat.left_le_or
      · rw [exponentBias_double, mantissaBits_double]
        omega

theorem exponent_of_isFinite (unpacks : Unpacks bits number) (finite : number.isFinite = true) :
    unpackExponent bits ≠ -1#11 := by
  intro all
  cases unpacks with
  | special _ infinite => cases finite.symm.trans infinite
  | zero sign none => exact absurd (all.symm.trans none) (by decide)
  | small sign none positive => exact absurd (all.symm.trans none) (by decide)
  | normal sign other some positive => exact other all

theorem isWithin_of_isFinite (unpacks : Unpacks bits number) (finite : number.isFinite = true) :
    IsWithin greatestExponent number := by
  have other := exponent_of_isFinite unpacks finite
  have less : (unpackExponent bits).toNat < 2048 := BitVec.isLt _
  have notAll : (unpackExponent bits).toNat ≠ 2047 := fun same => other (BitVec.eq_of_toNat_eq same)
  refine (isWithin_of_unpacks unpacks other).trans ?_
  rw [greatestExponent]
  omega

end

theorem unpack_packComponents (sign : Sign) (exponent : BitVec 11) (mantissa : BitVec 52)
    (other : exponent ≠ -1#11) :
    IsWithin (max exponent.toNat 1 - 1075)
      (unpack .binary64 (packComponents .binary64 sign exponent mantissa)) := by
  have biased : unpackExponent (packComponents .binary64 sign exponent mantissa) = exponent :=
    unpackExponent_packComponents
  have within := isWithin_of_unpacks (unpacks_unpack _) fun all => other (biased.symm.trans all)
  rwa [biased] at within

/-- Only a number with too great an exponent is packed as infinite. The exponent of any other
number is kept, unless the mantissa is too short. -/
theorem pack_finite (sign : Sign) (mantissa : Nat) (exponent : Int) (positive : 0 < mantissa) :
    greatestExponent < exponent ∧
        pack .binary64 (.finite sign mantissa exponent positive) = packedInfinity .binary64 sign ∨
      ∃ (biased : BitVec 11) (fraction : BitVec 52), biased ≠ -1#11 ∧
        (biased.toNat = (exponent + 1075).toNat ∨ mantissa.log2 ≠ 52 ∧ biased.toNat = 0) ∧
        pack .binary64 (.finite sign mantissa exponent positive) =
          packComponents .binary64 sign biased fraction := by
  have shape : (exponent + (Format.exponentBias .binary64 : Int)
      + (Format.mantissaBitsWithoutImplicit .binary64 : Int)) = exponent + 1075 := by
    rw [exponentBias_double]
    exact Int.add_assoc ..
  rw [pack.eq_def]
  dsimp only
  rw [shape]
  split
  · next overflows =>
      have large : 2048 ≤ (exponent + 1075).toNat + 1 := overflows
      rw [greatestExponent]
      exact .inl ⟨by omega, rfl⟩
  · next small =>
      have small : ¬ 2048 ≤ (exponent + 1075).toNat + 1 := small
      split
      · have biased : (BitVec.ofNat 11 (exponent + 1075).toNat).toNat =
            (exponent + 1075).toNat := by
          rw [BitVec.toNat_ofNat]
          exact Nat.mod_eq_of_lt (by omega)
        refine .inr ⟨_, _, ?_, .inl biased, rfl⟩
        intro all
        rw [all] at biased
        have all : (-1#11).toNat = 2047 := by decide
        omega
      · next short =>
          have short : ¬ mantissa.log2 + 1 = 53 := short
          exact .inr ⟨0#11, _, by decide, .inr ⟨by omega, rfl⟩, rfl⟩

theorem IsWithin.unpack_pack {limit : Int} {number : UnpackedFloat} (within : IsWithin limit number)
    (low : -1074 ≤ limit) (high : limit ≤ greatestExponent) :
    IsWithin limit (unpack .binary64 (pack .binary64 number)) := by
  cases within with
  | zero sign => exact (unpack_packComponents sign 0#11 0#52 (by decide)).trans low
  | @finite sign mantissa exponent positive fits atMost =>
      rcases pack_finite sign mantissa exponent positive with
        ⟨large, -⟩ | ⟨biased, fraction, other, kept, packed⟩
      · exact absurd large (Int.not_lt.mpr (Int.le_trans atMost high))
      · rw [packed]
        exact (unpack_packComponents sign biased fraction other).trans (by omega)

theorem IsLarge.unpack_pack {number : UnpackedFloat} (large : IsLarge number)
    (within : IsWithin greatestExponent number) :
    IsLarge (unpack .binary64 (pack .binary64 number)) := by
  cases large with
  | @finite sign mantissa exponent positive long large =>
      cases within with
      | finite fits atMost =>
          have bits : mantissa.log2 = 52 := (Nat.log2_eq_iff (by omega)).mpr ⟨long, fits⟩
          rcases pack_finite sign mantissa exponent positive with
            ⟨overflows, -⟩ | ⟨biased, fraction, other, kept, packed⟩
          · exact absurd atMost (Int.not_le.mpr overflows)
          · rw [packed]
            have unpacked :
                unpackExponent (packComponents .binary64 sign biased fraction) = biased :=
              unpackExponent_packComponents
            rw [← unpacked] at other kept
            exact isLarge_of_unpacks (unpacks_unpack _) other (by omega)

theorem isFinite_or_isInf {number : UnpackedFloat} (finite : number.isFinite = true) :
    (unpack .binary64 (pack .binary64 number)).isFinite = true ∨
      (unpack .binary64 (pack .binary64 number)).isInf = true := by
  cases number with
  | zero sign => exact .inl (unpack_packComponents sign 0#11 0#52 (by decide)).isFinite
  | finite sign mantissa exponent positive =>
      rcases pack_finite sign mantissa exponent positive with
        ⟨-, packed⟩ | ⟨biased, fraction, other, -, packed⟩
      · rw [packed]
        cases sign <;> exact .inr (by decide)
      · rw [packed]
        exact .inl (unpack_packComponents sign biased fraction other).isFinite
  | _ => cases finite

/-! ## Lengths -/

theorem log2_le {number bits : Nat} (less : number < 2 ^ (bits + 1)) : number.log2 ≤ bits := by
  rcases Nat.eq_zero_or_pos number with rfl | positive
  · exact Nat.zero_le bits
  · exact Nat.lt_succ_iff.mp ((Nat.log2_lt (Nat.pos_iff_ne_zero.mp positive)).mpr less)

theorem log2_shiftLeft_le (number shift : Nat) : (number <<< shift).log2 ≤ number.log2 + shift := by
  refine log2_le ?_
  rw [Nat.shiftLeft_eq, Nat.add_right_comm, Nat.pow_add]
  exact Nat.mul_lt_mul_of_pos_right Nat.lt_log2_self (Nat.two_pow_pos shift)

theorem log2_mul_le (left right : Nat) : (left * right).log2 ≤ left.log2 + right.log2 + 1 := by
  have bits : left.log2 + right.log2 + 1 + 1 = (left.log2 + 1) + (right.log2 + 1) := by omega
  refine log2_le ?_
  rw [bits, Nat.pow_add]
  exact Nat.mul_lt_mul'' Nat.lt_log2_self Nat.lt_log2_self

theorem log2_div_le (dividend : Nat) {divisor : Nat} (positive : 0 < divisor) :
    (dividend / divisor).log2 + divisor.log2 ≤ max dividend.log2 divisor.log2 := by
  have bound : dividend / divisor < 2 ^ (max dividend.log2 divisor.log2 - divisor.log2 + 1) := by
    rw [Nat.div_lt_iff_lt_mul positive]
    calc dividend
      _ < 2 ^ (dividend.log2 + 1) := Nat.lt_log2_self
      _ ≤ 2 ^ (max dividend.log2 divisor.log2 - divisor.log2 + 1) * 2 ^ divisor.log2 := by
          rw [← Nat.pow_add]
          exact Nat.pow_le_pow_right (by decide) (by omega)
      _ ≤ _ := Nat.mul_le_mul_left _ (Nat.log2_self_le (Nat.pos_iff_ne_zero.mp positive))
  have less := log2_le bound
  omega

/-! ## Rounding -/

theorem targetExponent_double (total : Int) :
    Format.targetExponent .binary64 total = max (total - 53) (-1074) := rfl

theorem mantissa_shiftRight (extended : ExtendedMantissa) (count : Nat) :
    (extended >>> count).mantissa = extended.mantissa / 2 ^ count := by
  induction count with
  | zero => exact (Nat.div_one _).symm
  | succ count induction =>
      change (extended >>> count).mantissa / 2 = _
      rw [induction, Nat.div_div_eq_div_mul, Nat.pow_succ]

theorem roundedMantissa_le (extended : ExtendedMantissa) :
    extended.roundedMantissa ≤ extended.mantissa + 1 := by
  rcases extended with ⟨mantissa, _ | _, _ | _⟩
  · exact Nat.le_succ mantissa
  · exact Nat.le_succ mantissa
  · have even : mantissa % 2 ≤ 1 := by omega
    exact Nat.add_le_add_left even mantissa
  · exact Nat.le_refl _

theorem mantissa_le_roundedMantissa (extended : ExtendedMantissa) :
    extended.mantissa ≤ extended.roundedMantissa := by
  rcases extended with ⟨mantissa, _ | _, _ | _⟩
  · exact Nat.le_refl mantissa
  · exact Nat.le_refl mantissa
  · exact Nat.le_add_right mantissa _
  · exact Nat.le_succ mantissa

theorem shiftToTargetExponent_fits {mantissa : Nat} {exponent target : Int} {accuracy : Accuracy}
    {extended : ExtendedMantissa}
    (shifted : shiftToTargetExponent .binary64 mantissa exponent accuracy = (extended, target)) :
    extended.mantissa < 2 ^ 53 ∧
      target = max exponent (max (totalExponent mantissa exponent - 53) (-1074)) ∧
      (2 ^ 52 ≤ mantissa → -1074 ≤ exponent → 2 ^ 52 ≤ extended.mantissa) := by
  have initial :
      (ExtendedMantissa.ofMantissaAndAccuracy mantissa accuracy).mantissa = mantissa := by
    rcases accuracy with _ | (_ | _ | _) <;> rfl
  rw [shiftToTargetExponent, shiftToExponent, targetExponent_double, Prod.mk.injEq] at shifted
  rcases shifted with ⟨rfl, rfl⟩
  rw [mantissa_shiftRight, initial, totalExponent]
  refine ⟨?_, ?_, ?_⟩
  · rw [Nat.div_lt_iff_lt_mul (Nat.two_pow_pos _), ← Nat.pow_add]
    exact Nat.lt_of_lt_of_le Nat.lt_log2_self (Nat.pow_le_pow_right (by decide) (by omega))
  · omega
  · intro long normal
    have bits : 52 ≤ mantissa.log2 := (Nat.le_log2 (by omega)).mpr long
    rw [Nat.le_div_iff_mul_le (Nat.two_pow_pos _), ← Nat.pow_add]
    refine Nat.le_trans (Nat.pow_le_pow_right (by decide) ?_) (Nat.log2_self_le (by omega))
    omega

/-- A mantissa is shifted to the exponent of the result and rounded there, and shifted again in
case that rounding carries. -/
theorem roundWithAccuracy_shifts (sign : Sign) (mantissa : Nat) (exponent : Int)
    (accuracy : Accuracy) :
    ∃ first middle last final,
      shiftToTargetExponent .binary64 mantissa exponent accuracy = (first, middle) ∧
        shiftToTargetExponent .binary64 first.roundedMantissa middle .exact = (last, final) ∧
        (last.mantissa = 0 ∧
            roundWithAccuracy .binary64 sign mantissa exponent accuracy = .zero sign ∨
          ∃ positive, roundWithAccuracy .binary64 sign mantissa exponent accuracy =
            .finite sign last.mantissa final positive) := by
  rw [roundWithAccuracy]
  rcases shiftToTargetExponent .binary64 mantissa exponent accuracy with ⟨first, middle⟩
  dsimp only
  refine ⟨first, middle, ?_⟩
  rcases shiftToTargetExponent .binary64 first.roundedMantissa middle .exact with ⟨last, final⟩
  refine ⟨last, final, rfl, rfl, ?_⟩
  by_cases none : last.mantissa = 0
  · exact .inl ⟨none, dif_pos none⟩
  · exact .inr ⟨Nat.pos_of_ne_zero none, dif_neg none⟩

variable {limit : Int}

theorem isWithin_roundWithAccuracy (low : -1073 ≤ limit) (sign : Sign)
    {mantissa : Nat} {exponent : Int} (atMost : exponent < limit)
    (below : totalExponent mantissa exponent < limit + 53) (accuracy : Accuracy) :
    IsWithin limit (roundWithAccuracy .binary64 sign mantissa exponent accuracy) := by
  rcases roundWithAccuracy_shifts sign mantissa exponent accuracy with
    ⟨first, middle, last, final, shifted, again, ⟨-, result⟩ | ⟨positive, result⟩⟩
  · rw [result]
    exact .zero sign
  · rcases shiftToTargetExponent_fits shifted with ⟨short, middleIs, -⟩
    rcases shiftToTargetExponent_fits again with ⟨fits, finalIs, -⟩
    have carried : first.roundedMantissa.log2 ≤ 53 :=
      log2_le (Nat.lt_of_le_of_lt (roundedMantissa_le first) (by omega))
    rw [totalExponent] at finalIs
    rw [result]
    exact .finite fits (by omega)

theorem isLarge_roundWithAccuracy (sign : Sign) {mantissa : Nat} {exponent : Int}
    (long : 2 ^ 52 ≤ mantissa) (normal : -1074 ≤ exponent)
    (large : 4 ≤ totalExponent mantissa exponent) (accuracy : Accuracy) :
    IsLarge (roundWithAccuracy .binary64 sign mantissa exponent accuracy) := by
  rcases roundWithAccuracy_shifts sign mantissa exponent accuracy with
    ⟨first, middle, last, final, shifted, again, outcome⟩
  rcases shiftToTargetExponent_fits shifted with ⟨-, middleIs, keeps⟩
  rcases shiftToTargetExponent_fits again with ⟨-, finalIs, keepsAgain⟩
  have rounded := Nat.le_trans (keeps long normal) (mantissa_le_roundedMantissa first)
  have longAgain := keepsAgain rounded (by omega)
  rcases outcome with ⟨none, -⟩ | ⟨positive, result⟩
  · omega
  · rw [result]
    exact .finite longAgain (by omega)

theorem isWithin_round (low : -1073 ≤ limit) (sign : Sign) {mantissa : Nat} {exponent : Int}
    (atMost : exponent < limit) (below : totalExponent mantissa exponent < limit + 53) :
    IsWithin limit (round .binary64 sign mantissa exponent) := by
  rw [UnpackedFloat.round]
  dsimp only [decreaseExponent]
  refine isWithin_roundWithAccuracy low _ (by omega) ?_ _
  generalize (exponent - _).toNat = shift
  have shifted := log2_shiftLeft_le mantissa shift
  rw [totalExponent] at below ⊢
  omega

/-! ## Arithmetic -/

theorem IsWithin.neg {number : UnpackedFloat} (within : IsWithin limit number) :
    IsWithin limit number.neg := by
  cases within with
  | zero sign => exact .zero _
  | finite fits atMost => exact .finite fits atMost

theorem IsWithin.mul {other : Int} {left right : UnpackedFloat} (leftWithin : IsWithin limit left)
    (rightWithin : IsWithin other right) (low : -1127 ≤ limit + other) :
    IsWithin (limit + other + 54) (mul .binary64 left right) := by
  cases leftWithin with
  | zero sign => cases rightWithin <;> exact .zero _
  | @finite _ left _ _ leftFits leftAtMost =>
      cases rightWithin with
      | zero sign => exact .zero _
      | @finite _ right _ _ rightFits rightAtMost =>
          -- The exact product has 106 bits at most, and 53 of them are left.
          have leftBits := log2_le leftFits
          have rightBits := log2_le rightFits
          have bits := log2_mul_le left right
          refine isWithin_roundWithAccuracy (by omega) _ (by omega) ?_ _
          rw [totalExponent]
          omega

theorem IsWithin.div {dividend divisor : UnpackedFloat} (within : IsWithin limit dividend)
    (large : IsLarge divisor) (low : -1073 ≤ limit) :
    IsWithin limit (div .binary64 dividend divisor) := by
  cases large with
  | @finite _ divisor divisorExponent positive long large =>
      have least : 52 ≤ divisor.log2 := (Nat.le_log2 (Nat.pos_iff_ne_zero.mp positive)).mpr long
      cases within with
      | zero sign => exact .zero _
      | @finite _ dividend exponent _ fits atMost =>
          have bits := log2_le fits
          refine isWithin_roundWithAccuracy low _ ?_ ?_ _
          · simp only [targetExponent_double, totalExponent]
            omega
          · simp only [targetExponent_double, totalExponent]
            -- The dividend is shifted up to the exponent of the quotient.
            generalize same : exponent - divisorExponent - min _ _ = shift
            have divided := log2_div_le (dividend <<< shift.toNat) positive
            have shifted := log2_shiftLeft_le dividend shift.toNat
            omega

theorem isWithin_ofUInt64 (number : UInt64) : IsWithin 12 (ofUInt64 .binary64 number) := by
  have fits : number.toNat.log2 ≤ 63 := log2_le number.toNat_lt
  rw [ofUInt64, ofNat, ofInt, UnpackedFloat.normalize]
  split
  · next negative =>
      rw [Int.compare_eq_lt] at negative
      omega
  · exact .zero _
  · rw [Int.toNat_natCast]
    exact isWithin_round (by decide) _ (by decide) (by rw [totalExponent]; omega)

theorem unpacked_ofScientific {mantissa power : Nat} (positive : mantissa ≠ 0)
    (unlisted : ¬(mantissa < 2 ^ 53 ∧ power ≤ 22)) (small : power ≤ 2048) :
    Binary.unpacked (Float.ofScientific mantissa false power) =
      unpack .binary64 (pack .binary64 (roundWithAccuracy .binary64 (.positive * .positive)
        (mantissa <<< 53 * 10 ^ power) (-53) .exact)) := by
  have word : (2 : Int) ^ Format.exponentBits .binary64 = 2048 := by decide
  have rounded : ofScientific .binary64 mantissa (.ofNat power) =
      roundWithAccuracy .binary64 (.positive * .positive) (mantissa <<< 53 * 10 ^ power) (-53)
        .exact := by
    rw [ofScientific, Int.ofNat_eq_natCast, dif_neg positive, word, if_neg (by omega),
      if_neg (by omega), if_pos (Int.natCast_nonneg power)]
    rfl
  rw [← rounded, Float.ofScientific, dif_neg unlisted]
  rfl

theorem isWithin_ofNat {number : Nat} (less : number < 2 ^ 64) :
    IsWithin 14 (Binary.unpacked (Float.ofNat number)) := by
  change IsWithin 14 (Binary.unpacked (Float.ofScientific number false 0))
  by_cases listed : number < 2 ^ 53 ∧ 0 ≤ 22
  -- A short number is multiplied by the first of the listed powers, which is one.
  · have one : IsWithin (-52) (Binary.unpacked Float.exactlyRepresentablePowersOfTen[0]) := by
      decide +kernel
    have product := ((isWithin_ofUInt64 number.toUInt64).unpack_pack (by decide) (by decide)).mul
      one (by decide)
    rw [Float.ofScientific, dif_pos listed]
    exact product.unpack_pack (by decide) (by decide)
  · have bits : number.log2 ≤ 63 := log2_le less
    have shifted := log2_shiftLeft_le number 53
    rw [unpacked_ofScientific (by omega) listed (by decide), Nat.pow_zero, Nat.mul_one]
    refine IsWithin.unpack_pack ?_ (by decide) (by decide)
    refine isWithin_roundWithAccuracy (by decide) _ (by decide) ?_ _
    rw [totalExponent]
    omega

theorem isWithin_of_finite {number : Float} (finite : number.isFinite = true) :
    IsWithin greatestExponent (Binary.unpacked number) :=
  isWithin_of_isFinite (unpacks_unpack _) finite

theorem neg_isFinite {number : Float} (finite : number.isFinite = true) :
    (-number).isFinite = true :=
  ((isWithin_of_finite finite).neg.unpack_pack (by decide) (Int.le_refl _)).isFinite

theorem mul_isFinite {left right : Float} (leftFinite : left.isFinite = true)
    (rightFinite : right.isFinite = true) (small : (left * right).isInf = false) :
    (left * right).isFinite = true := by
  have product := (isWithin_of_finite leftFinite).mul (isWithin_of_finite rightFinite)
    (by decide)
  rcases isFinite_or_isInf product.isFinite with finite | infinite
  · exact finite
  · exact absurd infinite (Bool.eq_false_iff.mp small)

theorem div_isWithin {dividend divisor : Float} (within : IsWithin limit (Binary.unpacked dividend))
    (large : IsLarge (Binary.unpacked divisor)) (low : -1073 ≤ limit)
    (high : limit ≤ greatestExponent) : IsWithin limit (Binary.unpacked (dividend / divisor)) :=
  (within.div large low).unpack_pack (by omega) high

end Number

end SpriteScript
