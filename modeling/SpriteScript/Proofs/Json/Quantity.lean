import SpriteScript.Json.Record
import SpriteScript.Proofs.Number.Finite

namespace SpriteScript

/-! Numbers that are read are finite: digits are gathered below the limit of a word, division by
a power of ten makes nothing greater, and an infinite product is refused. -/

namespace Quantity

open Number Float.Model Float.Model.UnpackedFloat

theorem gather_lt {total : Nat} (small : total < wordLimit) (digits : List Digit) :
    (gather total digits).1 < wordLimit := by
  induction digits generalizing total with
  | nil => exact small
  | cons digit rest induction =>
      rw [gather]
      split
      · next next => exact induction next
      · exact small

theorem rounded_isLarge {number : Nat} (large : 10 ≤ number) (bits : number.log2 ≤ 1019) :
    IsLarge (unpack .binary64 (pack .binary64
      (roundWithAccuracy .binary64 (.positive * .positive) (1 <<< 53 * number) (-53) .exact))) := by
  have scaled : 1 <<< 53 * number = number <<< 53 := by
    rw [Nat.shiftLeft_eq, Nat.shiftLeft_eq, Nat.one_mul, Nat.mul_comm]
  have long : 2 ^ 56 ≤ number <<< 53 := by
    rw [Nat.shiftLeft_eq]
    omega
  have atMost := log2_shiftLeft_le number 53
  have atLeast := (Nat.le_log2 (by omega)).mpr long
  rw [scaled]
  generalize number <<< 53 = mantissa at long atMost atLeast
  refine IsLarge.unpack_pack ?_ ?_
  · refine isLarge_roundWithAccuracy _ (Nat.le_trans (by decide) long) (by decide) ?_ _
    rw [totalExponent]
    omega
  · refine isWithin_roundWithAccuracy (by decide) _ (by decide) ?_ _
    rw [totalExponent, greatestExponent]
    omega

theorem powerOfTen_isLarge {power : Nat} (positive : 0 < power) (atMost : power ≤ greatestPower) :
    IsLarge (Binary.unpacked (powerOfTen power)) := by
  have listed : ∀ power < 22, IsLarge (Binary.unpacked (powerOfTen (power + 1))) := by
    decide +kernel
  have greatest : IsLarge (Binary.unpacked (powerOfTen greatestPower)) := by decide +kernel
  rcases Nat.lt_or_ge 22 power with unlisted | few
  · rcases Nat.lt_or_eq_of_le atMost with less | rfl
    · have least : 10 ^ 1 ≤ 10 ^ power := Nat.pow_le_pow_right (by decide) positive
      have below := Nat.pow_le_pow_right (n := 10) (by decide) (Nat.le_of_lt_succ less)
      have bits : (10 ^ power).log2 ≤ 1019 :=
        log2_le (Nat.lt_of_le_of_lt below (by decide +kernel))
      have small := Nat.le_trans atMost (by decide : greatestPower ≤ 2048)
      rw [powerOfTen, unpacked_ofScientific (by decide) (by omega) small]
      exact rounded_isLarge least bits
    · exact greatest
  · rw [← Nat.sub_add_cancel positive]
    exact listed _ (by omega)

theorem powerOfTen_isFinite {power : Nat} (atMost : power ≤ greatestPower) :
    (powerOfTen power).isFinite = true := by
  rcases Nat.eq_zero_or_pos power with rfl | positive
  · decide +kernel
  · exact (powerOfTen_isLarge positive atMost).isFinite

variable {limit : Int}

theorem stages_isWithin {power : Nat} (low : -1073 ≤ limit) (high : limit ≤ greatestExponent)
    (positive : 0 < power) (turns : Nat) {number : Float}
    (within : IsWithin limit (Binary.unpacked number)) :
    IsWithin limit (Binary.unpacked (divide.stages power turns number)) := by
  induction turns generalizing number with
  | zero =>
      have rest : power - (power - 1) / greatestPower * greatestPower =
          (power - 1) % greatestPower + 1 := by
        have division := Nat.div_add_mod' (power - 1) greatestPower
        omega
      rw [divide.stages, rest]
      exact div_isWithin within
        (powerOfTen_isLarge (Nat.succ_pos _) (Nat.mod_lt _ (by decide))) low high
  | succ turns induction =>
      rw [divide.stages]
      split
      · exact within
      · have large : IsLarge (Binary.unpacked (powerOfTen greatestPower)) :=
          powerOfTen_isLarge (by decide) (Nat.le_refl _)
        exact induction (div_isWithin within large low high)

theorem scale?_isFinite (low : -1073 ≤ limit) (high : limit ≤ greatestExponent)
    {number scaled : Float} {power : Int} (within : IsWithin limit (Binary.unpacked number))
    (done : scale? number power = some scaled) : scaled.isFinite = true := by
  have finite : number.isFinite = true := within.isFinite
  rw [scale?] at done
  split at done
  · cases done
    exact (stages_isWithin low high (by omega) _ within).isFinite
  · split at done
    · cases done
      exact finite
    · split at done
      · next atMost =>
          dsimp only at done
          split at done
          · cases done
          · next small =>
              cases done
              exact mul_isFinite finite (powerOfTen_isFinite atMost) (Bool.eq_false_iff.mpr small)
      · cases done

theorem ofNumeral?_isFinite {numeral : Numeral} {quantity : Quantity}
    (done : ofNumeral? numeral = some quantity) : quantity.toDouble.isFinite = true := by
  have whole : (gather 0 numeral.whole).1 < wordLimit := gather_lt (by decide) _
  have total : (gather (gather 0 numeral.whole).1 numeral.fraction).1 < wordLimit :=
    gather_lt whole _
  rw [ofNumeral?] at done
  dsimp only at done
  split at done
  · have finite : (Float.ofNat (gather 0 numeral.whole).1).isFinite = true :=
      (isWithin_ofNat whole).isFinite
    cases done
    split
    · exact neg_isFinite finite
    · exact finite
  · rcases Option.map_eq_some_iff.mp done with ⟨magnitude, scaled, same⟩
    have finite : magnitude.isFinite = true :=
      scale?_isFinite (by decide) (by decide) (isWithin_ofNat total) scaled
    cases same
    dsimp only [toDouble]
    split
    · exact neg_isFinite finite
    · exact finite

end Quantity

theorem Json.asDouble?_isFinite {json : Json} {value : Float} (done : json.asDouble? = some value) :
    value.isFinite = true := by
  rcases Option.map_eq_some_iff.mp done with ⟨quantity, read, same⟩
  cases same
  cases json with
  | number numeral => exact Quantity.ofNumeral?_isFinite read
  | _ => cases read

end SpriteScript
