import Mathlib.Data.List.Chain
import SpriteScript.Number.Binary

namespace SpriteScript

/-! The order of binary numbers. A number that is not a NaN has a rank, and ranks are
compared one part after the other; so the order of the numbers is transitive. -/

open Float.Model (UnpackedFloat)
open Float.Model.UnpackedFloat (Sign)

namespace Number

/-- The place of a number in the order. The numbers of one level differ in their
exponents, or in their mantissas. -/
structure Rank where
  level : Int
  exponent : Int
  mantissa : Int

namespace Rank

def IsAtMost (left right : Rank) : Prop :=
  left.level < right.level ∨ left.level = right.level ∧
    (left.exponent < right.exponent ∨
      left.exponent = right.exponent ∧ left.mantissa ≤ right.mantissa)

theorem IsAtMost.trans {left middle right : Rank} (first : left.IsAtMost middle)
    (second : middle.IsAtMost right) : left.IsAtMost right := by
  simp only [IsAtMost] at first second ⊢
  omega

def ofUnpacked? : UnpackedFloat → Option Rank
  | .notANumber => none
  | .infinity .positive => some ⟨2, 0, 0⟩
  | .finite .positive mantissa exponent _ => some ⟨1, exponent, mantissa⟩
  | .zero _ => some ⟨0, 0, 0⟩
  | .finite .negative mantissa exponent _ => some ⟨-1, -exponent, -mantissa⟩
  | .infinity .negative => some ⟨-2, 0, 0⟩

private theorem isLE_then (leftExponent rightExponent : Int) (leftMantissa rightMantissa : Nat) :
    ((compare leftExponent rightExponent).then (compare leftMantissa rightMantissa)).isLE = true ↔
      leftExponent < rightExponent ∨
        leftExponent = rightExponent ∧ leftMantissa ≤ rightMantissa := by
  rw [Ordering.isLE_then_iff_or, Int.compare_eq_lt, Int.compare_eq_eq, Nat.isLE_compare]

private theorem isLE_swap_then (leftExponent rightExponent : Int)
    (leftMantissa rightMantissa : Nat) :
    ((compare leftExponent rightExponent).then
        (compare leftMantissa rightMantissa)).swap.isLE = true ↔
      rightExponent < leftExponent ∨
        leftExponent = rightExponent ∧ rightMantissa ≤ leftMantissa := by
  rw [Ordering.swap_then, Int.compare_swap, Nat.compare_swap, isLE_then, eq_comm]

theorem le_iff (left right : UnpackedFloat) :
    left.le right = true ↔ ∃ leftRank rightRank, ofUnpacked? left = some leftRank ∧
      ofUnpacked? right = some rightRank ∧ leftRank.IsAtMost rightRank := by
  have negatives : compare Sign.negative Sign.negative = .eq := rfl
  have ascending : compare Sign.negative Sign.positive = .lt := rfl
  have descending : compare Sign.positive Sign.negative = .gt := rfl
  have positives : compare Sign.positive Sign.positive = .eq := rfl
  -- The order is given by a table over the kinds and signs of both numbers.
  rcases left with (_ | _) | _ | (_ | _) | ⟨_ | _, _, _, _⟩ <;>
    rcases right with (_ | _) | _ | (_ | _) | ⟨_ | _, _, _, _⟩ <;>
    dsimp only [UnpackedFloat.le, UnpackedFloat.compare, ofUnpacked?] <;>
    simp [IsAtMost, isLE_then, isLE_swap_then, negatives, ascending, descending, positives,
      -Ordering.isLE_swap]

end Rank

protected theorem le_trans {left middle right : Float} (first : left ≤ middle)
    (second : middle ≤ right) : left ≤ right := by
  have leftMiddle : left.toModel.unpack.le middle.toModel.unpack = true := of_decide_eq_true first
  have middleRight : middle.toModel.unpack.le right.toModel.unpack = true :=
    of_decide_eq_true second
  rcases (Rank.le_iff ..).mp leftMiddle with ⟨leftRank, middleRank, isLeft, isMiddle, before⟩
  rcases (Rank.le_iff ..).mp middleRight with ⟨sameRank, rightRank, isSame, isRight, after⟩
  have same : sameRank = middleRank := Option.some.inj (isSame.symm.trans isMiddle)
  rw [same] at after
  have atMost : left.toModel.unpack.le right.toModel.unpack = true :=
    (Rank.le_iff ..).mpr ⟨leftRank, rightRank, isLeft, isRight, before.trans after⟩
  exact decide_eq_true atMost

theorem le_of_isChain {numbers : List Float} {last : Float}
    (ascending : (numbers ++ [last]).IsChain (· ≤ ·)) {number : Float}
    (member : number ∈ numbers) : number ≤ last := by
  have trans : IsTrans Float (· ≤ ·) := ⟨fun _ _ _ => Number.le_trans⟩
  have pairwise := List.isChain_iff_pairwise.mp ascending
  exact (List.pairwise_append.mp pairwise).2.2 number member last (List.mem_singleton_self last)

end Number

end SpriteScript
