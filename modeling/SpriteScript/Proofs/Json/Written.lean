import SpriteScript.Proofs.Json.Scaling
import SpriteScript.Proofs.Number.Layout

namespace SpriteScript

/-! What a written decimal is read as: its digits, scaled by its power of ten. The layout of
whole numbers adds a zero after the point, which is read with the other digits. -/

namespace Power

theorem toInt_ofInt (power : Int) : (ofInt power).toInt = power := by
  rw [toInt, ofInt, Digits.value_ofNat]
  split
  · next negative =>
      have below := of_decide_eq_true negative
      omega
  · next nonneg =>
      have above := of_decide_eq_false (Bool.eq_false_of_not_eq_true nonneg)
      omega

end Power

namespace Numeral

def total (numeral : Numeral) : Nat := Digits.value (numeral.whole ++ numeral.fraction)

def scale (numeral : Numeral) : Int :=
  (numeral.power.map Power.toInt).getD 0 - numeral.fraction.length

/-- Whether a numeral is not a whole number by its form. -/
def IsMarked (numeral : Numeral) : Prop := numeral.fraction ≠ [] ∨ numeral.power ≠ none

end Numeral

namespace Quantity

theorem ofNumeral?_of_isMarked {numeral : Numeral} (marked : numeral.IsMarked)
    (fits : numeral.total < wordLimit) :
    ofNumeral? numeral = (scale? (.ofNat numeral.total) numeral.scale).map fun magnitude =>
      .real (if numeral.negative then -magnitude else magnitude) := by
  rw [Numeral.total, Digits.value_eq, Digits.valueFrom_append] at fits
  have whole := gather_of_lt (Nat.lt_of_le_of_lt (Digits.le_valueFrom _ numeral.fraction) fits)
  have all := gather_of_lt fits
  have notWhole : (numeral.fraction.isEmpty && numeral.power.isNone) = false := by
    rw [Bool.and_eq_false_iff]
    rcases marked with pointed | powered
    · exact .inl (List.isEmpty_eq_false_iff.mpr pointed)
    · exact .inr (Option.isNone_eq_false_iff.mpr (Option.isSome_iff_ne_none.mpr powered))
  rw [ofNumeral?]
  simp only [whole, all, notWhole, Bool.false_and, Bool.false_eq_true, if_false, List.length_nil,
    Int.natCast_zero, Int.add_zero]
  rw [Numeral.total, Digits.value_eq, Digits.valueFrom_append, Numeral.scale]

end Quantity

namespace Layout

/-! ## Places -/

/-- Whether a numeral is read as a decimal. A whole number has one more zero, and less than as
many digits as the layout writes before a power. -/
structure IsWritten (numeral : Numeral) (decimal : Decimal) (digits : Nat) : Prop where
  marked : numeral.IsMarked
  parts : numeral.total = decimal.digits ∧ numeral.scale = decimal.exponent ∨
    numeral.total = decimal.digits * 10 ^ (decimal.exponent.toNat + 1) ∧ numeral.scale = -1 ∧
      0 ≤ decimal.exponent ∧ numeral.total < 10 ^ (digits + 1)

variable {layout : Layout} {decimal : Decimal} {digits : Nat}

theorem pointed_isWritten (negative : Bool) (points : layout.wholeFraction = [0])
    (short : (Digits.ofNat decimal.digits).length + decimal.exponent ≤ digits) :
    IsWritten (layout.pointed negative (Digits.ofNat decimal.digits) decimal.exponent) decimal
      digits := by
  have value := Digits.value_ofNat decimal.digits
  have less := Digits.value_lt (Digits.ofNat decimal.digits)
  have some : 0 < (Digits.ofNat decimal.digits).length :=
    List.length_pos_iff.mpr (Digits.ofNat_ne_nil _)
  generalize Digits.ofNat decimal.digits = written at value less short some
  rw [pointed]
  split
  · next whole =>
      have total : Digits.value (written ++ zeros decimal.exponent ++ [0]) =
          decimal.digits * 10 ^ (decimal.exponent.toNat + 1) := by
        rw [zeros, List.append_assoc, ← List.replicate_succ', Digits.value_append_zeros, value]
      refine ⟨.inl (by simp [points]), .inr ⟨?_, ?_, whole, ?_⟩⟩
      · rw [Numeral.total, points, total]
      · rw [Numeral.scale, points]
        rfl
      · rw [Numeral.total, points]
        refine Nat.lt_of_lt_of_le (Digits.value_lt _) (Nat.pow_le_pow_right (by decide) ?_)
        rw [zeros, List.length_append, List.length_append, List.length_replicate,
          List.length_singleton]
        omega
  · next fraction =>
      split
      · next before =>
          refine ⟨.inl ?_, .inl ⟨?_, ?_⟩⟩
          · rw [← List.length_pos_iff, List.length_drop]
            omega
          · rw [Numeral.total, List.take_append_drop, value]
          · rw [Numeral.scale, List.length_drop]
            dsimp only [Option.map_none, Option.getD_none]
            omega
      · next after =>
          refine ⟨.inl ?_, .inl ⟨?_, ?_⟩⟩
          · rw [← List.length_pos_iff, List.length_append]
            omega
          · rw [Numeral.total, List.singleton_append, zeros, ← List.cons_append,
              ← List.replicate_succ, Digits.value_zeros_append, value]
          · rw [Numeral.scale, List.length_append, zeros, List.length_replicate]
            dsimp only [Option.map_none, Option.getD_none]
            omega

theorem powered_isWritten (negative : Bool) :
    IsWritten (powered negative (Digits.ofNat decimal.digits) decimal.exponent) decimal digits := by
  have some : 0 < (Digits.ofNat decimal.digits).length :=
    List.length_pos_iff.mpr (Digits.ofNat_ne_nil _)
  refine ⟨.inr (by rw [powered]; exact Option.some_ne_none _), .inl ⟨?_, ?_⟩⟩
  · rw [Numeral.total, powered, List.take_append_drop, Digits.value_ofNat]
  · rw [Numeral.scale, powered, Option.map_some, Option.getD_some, Power.toInt_ofInt,
      List.length_drop]
    omega

theorem place_isWritten {least : Int} (negative : Bool) (points : layout.wholeFraction = [0])
    (positional : layout.positional = some (least, (digits : Int) - 1)) :
    IsWritten (layout.place negative decimal) decimal digits := by
  rw [place]
  simp only [positional]
  split
  · next inPlace =>
      rw [Bool.and_eq_true] at inPlace
      have greatest := of_decide_eq_true inPlace.2
      exact pointed_isWritten negative points (by omega)
  · exact powered_isWritten negative

theorem place_isWritten_single (decimal : Decimal) (negative : Bool) :
    IsWritten (singleData.place negative decimal) decimal 13 :=
  place_isWritten negative rfl rfl

theorem place_isWritten_double (decimal : Decimal) (negative : Bool) :
    IsWritten (doubleData.place negative decimal) decimal 16 :=
  place_isWritten negative rfl rfl

theorem negative_pointed (layout : Layout) (negative : Bool) (written : List Digit)
    (exponent : Int) : (layout.pointed negative written exponent).negative = negative := by
  rw [pointed]
  split
  · rfl
  · split <;> rfl

theorem negative_place (layout : Layout) (negative : Bool) (decimal : Decimal) :
    (layout.place negative decimal).negative = negative := by
  rw [place]
  exact iteInduction (motive := fun (numeral : Numeral) => numeral.negative = negative)
    (fun _ => layout.negative_pointed negative _ _) (fun _ => rfl)

end Layout

end SpriteScript
