import SpriteScript.Number.Layout
import SpriteScript.Proofs.Number.Digits
import SpriteScript.Proofs.Number.Shortest
import SpriteScript.Proofs.Number.Unpacked

namespace SpriteScript

/-! What is written for a number is in the grammar of numbers, whatever the layout. -/

open Float.Model (UnpackedFloat)

namespace Layout

theorem pointed_isProper (layout : Layout) (negative : Bool) {first : Digit} (rest : List Digit)
    (leading : first ≠ 0) (exponent : Int) :
    (layout.pointed negative (first :: rest) exponent).IsProper := by
  have head : some first ≠ some 0 := fun same => leading (Option.some.inj same)
  rw [pointed]
  split
  · exact ⟨List.cons_ne_nil _ _, .inr head, fun power same => by cases same⟩
  · split
    · next before =>
        have count : (((first :: rest).length : Int) + exponent).toNat =
            (((first :: rest).length : Int) + exponent).toNat - 1 + 1 := by omega
        rw [count, List.take_succ_cons]
        exact ⟨List.cons_ne_nil _ _, .inr head, fun power same => by cases same⟩
    · exact ⟨List.cons_ne_nil _ _, .inl rfl, fun power same => by cases same⟩

theorem powered_isProper (negative : Bool) {first : Digit} (rest : List Digit)
    (leading : first ≠ 0) (exponent : Int) :
    (powered negative (first :: rest) exponent).IsProper := by
  refine ⟨List.cons_ne_nil _ _, .inr fun same => leading (Option.some.inj same), ?_⟩
  intro power same
  cases same
  exact Digits.ofNat_ne_nil _

theorem place_isProper (layout : Layout) (negative : Bool) {decimal : Decimal}
    (positive : 0 < decimal.digits) : (layout.place negative decimal).IsProper := by
  have nonempty := Digits.ofNat_ne_nil decimal.digits
  have leading := Digits.head_ofNat positive
  rw [place]
  rcases List.exists_cons_of_ne_nil nonempty with ⟨first, rest, digits⟩
  rw [digits] at leading ⊢
  have nonzero : first ≠ 0 := fun same => leading (congrArg some same)
  exact iteInduction (fun _ => layout.pointed_isProper negative rest nonzero _)
    (fun _ => powered_isProper negative rest nonzero _)

variable {α : Type} [Binary α]

theorem numeral?_of_infinite (layout : Layout) (number : α)
    (infinite : (Binary.unpacked number).isFinite = false) : layout.numeral? number = none := by
  rw [numeral?]
  cases same : Binary.unpacked number with
  | notANumber => rfl
  | infinity sign => rfl
  | zero sign =>
      rw [same] at infinite
      cases infinite
  | finite sign mantissa exponent positive =>
      rw [same] at infinite
      cases infinite

theorem numeral?_of_finite (layout : Layout) (number : α)
    (finite : (Binary.unpacked number).isFinite = true) :
    ∃ numeral, layout.numeral? number = some numeral := by
  rw [numeral?]
  cases same : Binary.unpacked number with
  | notANumber =>
      rw [same] at finite
      cases finite
  | infinity sign =>
      rw [same] at finite
      cases finite
  | zero sign => exact ⟨_, rfl⟩
  | finite sign mantissa exponent positive => exact ⟨_, rfl⟩

theorem numeral?_isProper [Binary.Lawful α] (layout : Layout) {number : α} {numeral : Numeral}
    (written : layout.numeral? number = some numeral) : numeral.IsProper := by
  rw [numeral?] at written
  split at written
  · cases written
  · cases written
  · cases written
    exact ⟨List.cons_ne_nil _ _, .inl rfl, fun power same => by cases same⟩
  · next sign mantissa exponent positive unpacked =>
      cases written
      have bits := Binary.Lawful.bits_le (α := α)
      have fits := Binary.Lawful.mantissa_lt number unpacked
      refine layout.place_isProper _ (Shortest.decimal_pos _ positive ?_ exponent ?_)
      · refine Nat.lt_of_lt_of_le fits (Nat.pow_le_pow_right (by decide) (by omega))
      · intro narrow
        rw [(Binary.narrowBelow_iff.mp narrow).1]
        exact Nat.pow_le_pow_right (by decide) bits

end Layout

end SpriteScript
