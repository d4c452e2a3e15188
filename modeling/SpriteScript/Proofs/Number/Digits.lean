import Mathlib.Algebra.Group.Nat.Defs
import SpriteScript.Json.Quantity

namespace SpriteScript

/-! The digits of a number, written and read again. -/

theorem Digit.ofChar?_char (digit : Digit) : ofChar? digit.char = some digit := by
  revert digit
  decide

theorem Digit.char_ne_minus (digit : Digit) : digit.char ≠ '-' := by
  revert digit
  decide

namespace Digits

theorem split_chars_append (digits : List Digit) {rest : List Char}
    (ends : ∀ char ∈ rest.head?, Digit.ofChar? char = none) :
    split (chars digits ++ rest) = (digits, rest) := by
  induction digits with
  | nil =>
      cases rest with
      | nil => rfl
      | cons char others =>
          have stops := ends char rfl
          rw [chars, List.map_nil, List.nil_append, split]
          simp only [stops]
  | cons digit others induction =>
      rw [chars, List.map_cons, List.cons_append, split, Digit.ofChar?_char]
      rw [chars] at induction
      simp only [induction]

theorem split_chars (digits : List Digit) : split (chars digits) = (digits, []) := by
  rw [← List.append_nil (chars digits)]
  exact split_chars_append digits (fun char member => by cases member)

theorem ofNat_ne_nil (number : Nat) : ofNat number ≠ [] := by
  rcases Nat.lt_or_ge number 10 with small | large
  · rw [ofNat_of_lt small]
    exact List.cons_ne_nil _ _
  · rw [ofNat_of_le large]
    exact List.append_ne_nil_of_right_ne_nil _ (List.cons_ne_nil _ _)

def valueFrom (total : Nat) (digits : List Digit) : Nat :=
  digits.foldl (fun total digit => 10 * total + digit.val) total

theorem value_eq (digits : List Digit) : value digits = valueFrom 0 digits := rfl

theorem valueFrom_append (total : Nat) (left right : List Digit) :
    valueFrom total (left ++ right) = valueFrom (valueFrom total left) right :=
  List.foldl_append

theorem le_valueFrom (total : Nat) (digits : List Digit) : total ≤ valueFrom total digits := by
  induction digits generalizing total with
  | nil => exact Nat.le_refl _
  | cons digit rest induction =>
      have more := induction (10 * total + digit.val)
      rw [valueFrom] at more ⊢
      rw [List.foldl_cons]
      omega

theorem valueFrom_replicate (total count : Nat) :
    valueFrom total (List.replicate count 0) = total * 10 ^ count := by
  induction count generalizing total with
  | zero => exact (Nat.mul_one total).symm
  | succ count induction =>
      have next := induction (10 * total)
      rw [valueFrom] at next ⊢
      rw [List.replicate_succ, List.foldl_cons, Fin.val_zero, Nat.add_zero, next, Nat.pow_succ',
        Nat.mul_assoc, Nat.mul_left_comm]

theorem value_ofNat (number : Nat) : value (ofNat number) = number := by
  induction number using Nat.strongRecOn with
  | ind number induction =>
      rcases Nat.lt_or_ge number 10 with small | large
      · rw [ofNat_of_lt small, value_eq, valueFrom, List.foldl_cons, List.foldl_nil,
          Fin.val_ofNat, Nat.mod_eq_of_lt small, Nat.mul_zero, Nat.zero_add]
      · rw [ofNat_of_le large, value_eq, valueFrom_append, ← value_eq,
          induction (number / 10) (by omega), valueFrom, List.foldl_cons, List.foldl_nil,
          Fin.val_ofNat, Nat.div_add_mod]

theorem valueFrom_lt (total : Nat) (digits : List Digit) :
    valueFrom total digits < (total + 1) * 10 ^ digits.length := by
  induction digits generalizing total with
  | nil => exact Nat.lt_of_lt_of_eq (Nat.lt_succ_self total) (Nat.mul_one _).symm
  | cons digit rest induction =>
      have next : 10 * total + digit.val + 1 ≤ (total + 1) * 10 := by
        have small := digit.isLt
        omega
      rw [List.length_cons, Nat.pow_succ', ← Nat.mul_assoc]
      exact Nat.lt_of_lt_of_le (induction _) (Nat.mul_le_mul_right _ next)

theorem value_lt (digits : List Digit) : value digits < 10 ^ digits.length :=
  Nat.lt_of_lt_of_eq (valueFrom_lt 0 digits) (Nat.one_mul _)

theorem value_append_zeros (digits : List Digit) (count : Nat) :
    value (digits ++ List.replicate count 0) = value digits * 10 ^ count := by
  rw [value_eq, valueFrom_append, valueFrom_replicate, ← value_eq]

theorem value_zeros_append (count : Nat) (digits : List Digit) :
    value (List.replicate count 0 ++ digits) = value digits := by
  rw [value_eq, valueFrom_append, valueFrom_replicate, Nat.zero_mul, ← value_eq]

theorem head_ofNat {number : Nat} (positive : 0 < number) : (ofNat number).head? ≠ some 0 := by
  induction number using Nat.strongRecOn with
  | ind number induction =>
      rcases Nat.lt_or_ge number 10 with small | large
      · rw [ofNat_of_lt small, List.head?_cons]
        intro same
        have value := congrArg Fin.val (Option.some.inj same)
        rw [Fin.val_ofNat] at value
        omega
      · rw [ofNat_of_le large, List.head?_append]
        cases first : (ofNat (number / 10)).head? with
        | none => exact absurd (List.head?_eq_none_iff.mp first) (ofNat_ne_nil _)
        | some digit =>
            rw [Option.some_or, ← first]
            exact induction (number / 10) (by omega) (by omega)

end Digits

namespace Numeral

/-- A numeral that the grammar has: there is no zero too many, and a power has digits. -/
structure IsProper (numeral : Numeral) : Prop where
  whole : numeral.whole ≠ []
  leading : numeral.whole = [0] ∨ numeral.whole.head? ≠ some 0
  power : ∀ power, numeral.power = some power → power.digits ≠ []

def fractionChars (fraction : List Digit) : List Char :=
  if fraction.isEmpty then [] else '.' :: Digits.chars fraction

def powerChars : Option Power → List Char
  | none => []
  | some power => 'e' :: (if power.negative then '-' else '+') :: Digits.chars power.digits

theorem chars_eq (numeral : Numeral) :
    numeral.chars = (if numeral.negative then ['-'] else []) ++ (Digits.chars numeral.whole ++
      (fractionChars numeral.fraction ++ powerChars numeral.power)) := by
  rw [chars, List.append_assoc, List.append_assoc]
  rfl

theorem split_fraction (fraction : List Digit) (power : Option Power) :
    Digits.split (Digits.chars fraction ++ powerChars power) = (fraction, powerChars power) := by
  apply Digits.split_chars_append
  cases power with
  | none => simp [powerChars]
  | some power => simp [powerChars, Digit.ofChar?]

theorem split_whole (whole fraction : List Digit) (power : Option Power) :
    Digits.split (Digits.chars whole ++ (fractionChars fraction ++ powerChars power)) =
      (whole, fractionChars fraction ++ powerChars power) := by
  apply Digits.split_chars_append
  cases fraction with
  | nil =>
      cases power with
      | none => simp [fractionChars, powerChars]
      | some power => simp [fractionChars, powerChars, Digit.ofChar?]
  | cons digit rest => simp [fractionChars, Digit.ofChar?]

theorem IsProper.ofData?_chars {numeral : Numeral} (proper : numeral.IsProper) :
    ofData? numeral.chars = some numeral := by
  rcases numeral with ⟨negative, whole, fraction, power⟩
  rcases proper with ⟨nonempty, leading, powered⟩
  have wholeSplit := split_whole whole fraction power
  have fractionSplit := split_fraction fraction power
  rw [chars_eq]
  cases whole with
  | nil => exact absurd rfl nonempty
  | cons digit rest =>
      have unsigned := digit.char_ne_minus
      have positive : rest = [] ∨ digit ≠ 0 := by
        cases rest with
        | nil => exact .inl rfl
        | cons second others => exact .inr (by simpa using leading)
      clear leading nonempty
      cases power with
      | none =>
          cases rest <;> cases negative <;> cases fraction <;>
            simp_all [ofData?, fractionChars, powerChars, Digits.chars]
      | some power =>
          rcases power with ⟨below, exponent⟩
          cases exponent with
          | nil => exact absurd rfl (powered _ rfl)
          | cons first others =>
              have powerSplit := Digits.split_chars (first :: others)
              clear powered
              cases rest <;> cases negative <;> cases fraction <;> cases below <;>
                simp_all [ofData?, fractionChars, powerChars, Digits.chars]

theorem ofNat_isProper (number : Nat) : (ofNat number).IsProper where
  whole := Digits.ofNat_ne_nil number
  leading := by
    rcases Nat.eq_zero_or_pos number with rfl | positive
    · exact .inl rfl
    · exact .inr (Digits.head_ofNat positive)
  power power same := by cases same

end Numeral

namespace Quantity

theorem gather_of_lt {total : Nat} {digits : List Digit}
    (fits : Digits.valueFrom total digits < wordLimit) :
    gather total digits = (Digits.valueFrom total digits, []) := by
  induction digits generalizing total with
  | nil => rfl
  | cons digit rest induction =>
      have next := Nat.lt_of_le_of_lt (Digits.le_valueFrom (10 * total + digit.val) rest) fits
      rw [gather]
      simp only [next, if_true]
      exact induction fits

theorem ofNumeral?_ofNat {number : Nat} (fits : number < wordLimit) :
    ofNumeral? (.ofNat number) = some (.natural number) := by
  have gathered : gather 0 (Digits.ofNat number) = (number, []) := by
    rw [gather_of_lt, ← Digits.value_eq, Digits.value_ofNat]
    rwa [← Digits.value_eq, Digits.value_ofNat]
  simp [ofNumeral?, Numeral.ofNat, gathered]

end Quantity

end SpriteScript
