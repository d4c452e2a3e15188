import Mathlib.Tactic.Lift
import Mathlib.Tactic.LinearCombination
import SpriteScript.Proofs.Number.Rounding

namespace SpriteScript

/-! How near the points of a decimal grid come to the middles between binary numbers. Of two
adjacent fractions around the ratio of the grids, each is a best approximation: a point that is
nearer to a middle than both of them would need more digits than a mantissa has. -/

namespace Shortest

structure Fraction where
  multiple : Nat
  count : Nat

/-- Whether a ratio is between two fractions that have no simpler one between them. -/
structure IsAdjacent (numerator denominator : Nat) (lower upper : Fraction) : Prop where
  below : lower.multiple * denominator ≤ lower.count * numerator
  above : upper.count * numerator ≤ upper.multiple * denominator
  adjacent : upper.multiple * lower.count = lower.multiple * upper.count + 1

namespace IsAdjacent

variable {numerator denominator : Nat} {lower upper : Fraction}

theorem exists_steps (adjacent : IsAdjacent numerator denominator lower upper)
    (count multiple : Nat) :
    ∃ left right : Int, count = left * lower.count + right * upper.count ∧
      multiple = left * lower.multiple + right * upper.multiple := by
  have determinant : (upper.multiple * lower.count : Int) = lower.multiple * upper.count + 1 := by
    exact_mod_cast adjacent.adjacent
  refine ⟨upper.multiple * count - upper.count * multiple,
    lower.count * multiple - lower.multiple * count, ?_, ?_⟩
  · linear_combination (-(count : Int)) * determinant
  · linear_combination (-(multiple : Int)) * determinant

def gap (numerator denominator : Nat) (fraction : Fraction) : Nat :=
  ((fraction.count * numerator : Int) - fraction.multiple * denominator).natAbs

theorem gap_lower (adjacent : IsAdjacent numerator denominator lower upper) :
    (gap numerator denominator lower : Int) =
      lower.count * numerator - lower.multiple * denominator := by
  have below : (lower.multiple * denominator : Int) ≤ lower.count * numerator := by
    exact_mod_cast adjacent.below
  exact Int.natAbs_of_nonneg (by omega)

theorem gap_upper (adjacent : IsAdjacent numerator denominator lower upper) :
    (gap numerator denominator upper : Int) =
      upper.multiple * denominator - upper.count * numerator := by
  have above : (upper.count * numerator : Int) ≤ upper.multiple * denominator := by
    exact_mod_cast adjacent.above
  rw [gap, Int.ofNat_natAbs_of_nonpos (by omega), neg_sub]

/-- A pair with few parts is a multiple of one of the fractions, or it is farther from the
ratio than both of them. -/
theorem gap_cases (adjacent : IsAdjacent numerator denominator lower upper) {fraction : Fraction}
    (some : 0 < fraction.count) (few : fraction.count < lower.count + upper.count) :
    (∃ times, 0 < times ∧ fraction.multiple = times * lower.multiple ∧
        gap numerator denominator fraction = times * gap numerator denominator lower) ∨
      (∃ times, 0 < times ∧ fraction.multiple = times * upper.multiple ∧
        gap numerator denominator fraction = times * gap numerator denominator upper) ∨
      gap numerator denominator lower + gap numerator denominator upper ≤
        gap numerator denominator fraction := by
  rcases adjacent.exists_steps fraction.count fraction.multiple with ⟨left, right, count, multiple⟩
  have below := adjacent.gap_lower
  have above := adjacent.gap_upper
  have combined : (fraction.count * numerator : Int) - fraction.multiple * denominator =
      left * gap numerator denominator lower - right * gap numerator denominator upper := by
    rw [count, multiple, below, above]
    ring
  rw [gap, combined]
  generalize gap numerator denominator lower = lowerGap
  generalize gap numerator denominator upper = upperGap
  have someCast : (0 : Int) < left * lower.count + right * upper.count := by omega
  have fewCast : left * lower.count + right * upper.count < lower.count + upper.count := by omega
  rcases lt_trichotomy left 0 with leftNeg | rfl | leftPos
  · have rightPos : 0 < right := by nlinarith
    have below : left * lowerGap ≤ -1 * lowerGap := by gcongr; omega
    have above : 1 * (upperGap : Int) ≤ right * upperGap := by gcongr; omega
    exact .inr (.inr (by omega))
  · lift right to Nat using by nlinarith
    refine .inr (.inl ⟨right, by nlinarith, by linarith, ?_⟩)
    rw [zero_mul, zero_sub, Int.natAbs_neg, ← Int.natCast_mul, Int.natAbs_natCast]
  · rcases lt_trichotomy right 0 with rightNeg | rfl | rightPos
    · have below : 1 * (lowerGap : Int) ≤ left * lowerGap := by gcongr; omega
      have above : right * upperGap ≤ -1 * upperGap := by gcongr; omega
      exact .inr (.inr (by omega))
    · lift left to Nat using leftPos.le
      refine .inl ⟨left, by omega, by linarith, ?_⟩
      rw [zero_mul, sub_zero, ← Int.natCast_mul, Int.natAbs_natCast]
    · -- Both fractions would have their parts in the sum.
      have below : 1 * (lower.count : Int) ≤ left * lower.count := by gcongr; omega
      have above : 1 * (upper.count : Int) ≤ right * upper.count := by gcongr; omega
      omega

end IsAdjacent

/-! ## Far from the ratio -/

variable {numerator denominator : Nat} {lower upper fraction : Fraction}

def IsFar (numerator denominator : Nat) (fraction : Fraction) : Prop :=
  1025 * (fraction.multiple * denominator) ≤
    2 ^ 62 * IsAdjacent.gap numerator denominator fraction

def IsSettled (numerator denominator exception : Nat) (fraction : Fraction) : Prop :=
  IsFar numerator denominator fraction ∨ fraction.multiple % 2 = 0 ∨
    2 ^ 25 ≤ fraction.multiple ∨ fraction.multiple = exception

/-- Whether two fractions prove that all middles of single width are far from the ratio. -/
structure Separates (numerator denominator exception : Nat) (lower upper : Fraction) : Prop
    extends IsAdjacent numerator denominator lower upper where
  beyond : 2 ^ 25 * denominator < (lower.count + upper.count) * numerator
  lowerSettled : IsSettled numerator denominator exception lower
  upperSettled : IsSettled numerator denominator exception upper
  both : 1025 * denominator ≤ 2 ^ 37 * (IsAdjacent.gap numerator denominator lower +
    IsAdjacent.gap numerator denominator upper)

instance : Decidable (IsAdjacent numerator denominator lower upper) :=
  decidable_of_iff (_ ∧ _ ∧ _)
    ⟨fun ⟨below, above, adjacent⟩ => ⟨below, above, adjacent⟩,
      fun ⟨below, above, adjacent⟩ => ⟨below, above, adjacent⟩⟩

instance (exception : Nat) : Decidable (IsSettled numerator denominator exception fraction) :=
  inferInstanceAs (Decidable (_ ≤ _ ∨ _))

instance (exception : Nat) : Decidable (Separates numerator denominator exception lower upper) :=
  decidable_of_iff (IsAdjacent numerator denominator lower upper ∧ _ ∧ _ ∧ _ ∧ _)
    ⟨fun ⟨adjacent, beyond, isLower, isUpper, both⟩ => ⟨adjacent, beyond, isLower, isUpper, both⟩,
      fun ⟨adjacent, beyond, isLower, isUpper, both⟩ => ⟨adjacent, beyond, isLower, isUpper, both⟩⟩

theorem IsSettled.isFar {exception times : Nat} {part : Fraction}
    (settled : IsSettled numerator denominator exception part)
    (large : exception = 0 ∨ 2 ^ 24 ≤ exception) (some : 0 < times)
    (multiple : fraction.multiple = times * part.multiple)
    (gap : IsAdjacent.gap numerator denominator fraction =
      times * IsAdjacent.gap numerator denominator part)
    (odd : fraction.multiple % 2 = 1) (short : fraction.multiple < 2 ^ 25) :
    IsFar numerator denominator fraction ∨ fraction.multiple = exception := by
  rcases settled with far | even | long | rfl
  · refine .inl ?_
    rw [IsFar] at far ⊢
    rw [multiple, gap]
    calc 1025 * (times * part.multiple * denominator)
      _ = times * (1025 * (part.multiple * denominator)) := by ring
      _ ≤ times * (2 ^ 62 * IsAdjacent.gap numerator denominator part) :=
          Nat.mul_le_mul_left times far
      _ = _ := by ring
  · rw [multiple, Nat.mul_mod, even, Nat.mul_zero, Nat.zero_mod] at odd
    cases odd
  · have more := Nat.le_mul_of_pos_left part.multiple some
    omega
  · refine .inr ?_
    rcases large with none | large
    · rw [multiple, none, Nat.mul_zero]
    · have once : times = 1 := by nlinarith
      rw [multiple, once, Nat.one_mul]

theorem Separates.isFar {exception : Nat}
    (separates : Separates numerator denominator exception lower upper)
    (large : exception = 0 ∨ 2 ^ 24 ≤ exception) (some : 0 < fraction.count)
    (within : fraction.count * numerator ≤ 2 ^ 25 * denominator)
    (odd : fraction.multiple % 2 = 1) (short : fraction.multiple < 2 ^ 25) :
    IsFar numerator denominator fraction ∨ fraction.multiple = exception := by
  have few : fraction.count < lower.count + upper.count :=
    Nat.lt_of_mul_lt_mul_right (within.trans_lt separates.beyond)
  rcases separates.gap_cases some few with ⟨times, some, multiple, gap⟩ |
    ⟨times, some, multiple, gap⟩ | apart
  · exact separates.lowerSettled.isFar large some multiple gap odd short
  · exact separates.upperSettled.isFar large some multiple gap odd short
  · have both := separates.both
    have most : fraction.multiple * denominator ≤ 2 ^ 25 * denominator :=
      Nat.mul_le_mul_right denominator short.le
    refine .inl ?_
    rw [IsFar]
    omega

/-! ## The table -/

/-- Looks for the fractions: each step replaces one of them by a nearer one, as far as it stays
on its side. -/
def approach (numerator denominator : Nat) : Nat → Fraction → Fraction → Fraction × Fraction
  | 0, lower, upper => (lower, upper)
  | fuel + 1, lower, upper =>
      if 2 ^ 25 * denominator < (lower.count + upper.count) * numerator then
        (lower, upper)
      else
        let below := lower.count * numerator - lower.multiple * denominator
        let above := upper.multiple * denominator - upper.count * numerator
        if above ≤ below then
          let steps := below / above
          approach numerator denominator fuel
            ⟨lower.multiple + steps * upper.multiple, lower.count + steps * upper.count⟩ upper
        else
          let steps := above / below
          approach numerator denominator fuel lower
            ⟨upper.multiple + steps * lower.multiple, upper.count + steps * lower.count⟩

/-- The ratio of a decimal grid to half the spacing of binary numbers, in lowest terms. -/
def tens (exponent grid : Int) : Nat := 5 ^ grid.toNat * 2 ^ (grid - exponent + 1).toNat

def halves (exponent grid : Int) : Nat := 5 ^ (-grid).toNat * 2 ^ (exponent - 1 - grid).toNat

/-- The middle that comes nearest to a decimal, which is 7038531e-32. -/
def nearestMiddle : Nat := 22841339

def exceptionAt (exponent : Int) : Nat := if exponent = -107 then nearestMiddle else 0

/-- Whether the middles are far from a grid, or the grid is so simple that they could only be
on it. -/
def IsSeparated (exponent grid : Int) : Prop :=
  1025 * halves exponent grid ≤ 2 ^ 37 ∧ grid.natAbs ≤ 21 ∨
    let found := approach (tens exponent grid) (halves exponent grid) 32 ⟨0, 1⟩ ⟨1, 0⟩
    Separates (tens exponent grid) (halves exponent grid) (exceptionAt exponent) found.1 found.2

def IsCoarse (exponent grid : Int) : Prop :=
  2046 * halves exponent grid < 1024 * tens exponent grid

def IsReached (exponent grid : Int) : Prop := tens exponent grid ≤ 2 ^ 25 * halves exponent grid

instance (exponent grid : Int) : Decidable (IsSeparated exponent grid) :=
  inferInstanceAs (Decidable (_ ∨ _))

instance (exponent grid : Int) : Decidable (IsCoarse exponent grid) :=
  inferInstanceAs (Decidable (_ < _))

instance (exponent grid : Int) : Decidable (IsReached exponent grid) :=
  inferInstanceAs (Decidable (_ ≤ _))

def firstGrid (exponent : Int) : Int := exponent * 30103 / 100000

theorem separated_table : ∀ index < 254, ∀ offset < 9,
    IsCoarse ((index : Nat) - 149) (firstGrid (index - 149) + (offset : Nat)) →
      IsReached (index - 149) (firstGrid (index - 149) + offset) →
        IsSeparated (index - 149) (firstGrid (index - 149) + offset) := by
  decide +kernel

theorem window_table : ∀ index < 254,
    ¬IsCoarse ((index : Nat) - 149) (firstGrid (index - 149) - 1) ∧
      ¬IsReached (index - 149) (firstGrid (index - 149) + 9) := by
  decide +kernel

/-! ## Grids as exact values -/

variable {exponent grid : Int}

theorem exists_common (exponent grid : Int) :
    ∃ common : ℚ, 0 < common ∧ tens exponent grid = common * 10 ^ grid ∧
      halves exponent grid = common * 2 ^ (exponent - 1) := by
  have fives : (5 : ℚ) ^ (-grid).toNat * 5 ^ grid = 5 ^ grid.toNat := by
    rw [← zpow_natCast, ← zpow_natCast, ← zpow_add₀ (by norm_num)]
    congr 1
    omega
  have twos : (2 : ℚ) ^ (exponent - 1 - grid).toNat * 2 ^ grid =
      2 ^ (grid - exponent + 1).toNat * 2 ^ (exponent - 1) := by
    rw [← zpow_natCast, ← zpow_natCast, ← Number.two_zpow_add, ← Number.two_zpow_add]
    congr 1
    omega
  have half : (2 : ℚ) ^ (exponent - 1) ≠ 0 := by positivity
  refine ⟨halves exponent grid / 2 ^ (exponent - 1), ?_, ?_, (div_mul_cancel₀ _ half).symm⟩
  · rw [halves]
    positivity
  · rw [div_mul_eq_mul_div, eq_div_iff half, tens, halves, show (10 : ℚ) = 5 * 2 by norm_num,
      mul_zpow]
    push_cast
    rw [← fives]
    linear_combination (-((5 : ℚ) ^ (-grid).toNat * 5 ^ grid)) * twos

theorem isCoarse_iff :
    IsCoarse exponent grid ↔ 2046 * (2 : ℚ) ^ (exponent - 1) < 1024 * 10 ^ grid := by
  rcases exists_common exponent grid with ⟨common, positive, ten, half⟩
  rw [IsCoarse, ← Nat.cast_lt (α := ℚ), Nat.cast_mul, Nat.cast_mul, ten, half, mul_left_comm,
    mul_left_comm _ common, mul_lt_mul_iff_right₀ positive]
  norm_num

theorem isReached_iff :
    IsReached exponent grid ↔ (10 : ℚ) ^ grid ≤ 2 ^ 25 * 2 ^ (exponent - 1) := by
  rcases exists_common exponent grid with ⟨common, positive, ten, half⟩
  rw [IsReached, ← Nat.cast_le (α := ℚ), Nat.cast_mul, ten, half, mul_left_comm,
    mul_le_mul_iff_right₀ positive]
  norm_num

theorem isSeparated (least : -149 ≤ exponent) (greatest : exponent ≤ 104)
    (coarse : IsCoarse exponent grid) (reached : IsReached exponent grid) :
    IsSeparated exponent grid := by
  have window := window_table (exponent + 149).toNat (by omega)
  have listed := separated_table (exponent + 149).toNat (by omega) (grid - firstGrid exponent).toNat
  rw [show ((exponent + 149).toNat : Int) - 149 = exponent by omega] at window listed
  have first : firstGrid exponent ≤ grid := by
    by_contra before
    refine window.1 (isCoarse_iff.mpr ((isCoarse_iff.mp coarse).trans_le ?_))
    exact mul_le_mul_of_nonneg_left (zpow_le_zpow_right₀ (by norm_num) (by omega)) (by norm_num)
  have last : grid < firstGrid exponent + 9 := by
    by_contra beyond
    refine window.2 (isReached_iff.mpr (le_trans ?_ (isReached_iff.mp reached)))
    exact zpow_le_zpow_right₀ (by norm_num) (by omega)
  rw [show firstGrid exponent + ((grid - firstGrid exponent).toNat : Int) = grid by omega] at listed
  exact listed (by omega) coarse reached

theorem IsSeparated.isFar (separated : IsSeparated exponent grid) {fraction : Fraction}
    (some : 0 < fraction.count)
    (within : fraction.count * tens exponent grid ≤ 2 ^ 25 * halves exponent grid)
    (odd : fraction.multiple % 2 = 1) (short : fraction.multiple < 2 ^ 25) :
    (IsAdjacent.gap (tens exponent grid) (halves exponent grid) fraction = 0 ∧ grid.natAbs ≤ 21) ∨
      IsFar (tens exponent grid) (halves exponent grid) fraction ∨
      fraction.multiple = exceptionAt exponent := by
  rcases separated with ⟨small, simple⟩ | separates
  · rcases Nat.eq_zero_or_pos (IsAdjacent.gap (tens exponent grid) (halves exponent grid) fraction)
      with on | off
    · exact .inl ⟨on, simple⟩
    · -- Numbers that differ are one apart, and this is far for units as large.
      have most : fraction.multiple * halves exponent grid ≤ 2 ^ 25 * halves exponent grid :=
        Nat.mul_le_mul_right _ short.le
      refine .inr (.inl ?_)
      rw [IsFar]
      omega
  · refine .inr (separates.isFar ?_ some within odd short)
    rw [exceptionAt]
    split
    · exact .inr (by decide)
    · exact .inl rfl

/-- A point of a coarse grid that is not beyond a mantissa is far from an odd middle, unless it
is the middle itself or the one exception. -/
theorem middle_far (least : -149 ≤ exponent) (greatest : exponent ≤ 104)
    (coarse : 1023 * (2 : ℚ) ^ exponent < 1024 * 10 ^ grid) {point middle : Nat}
    (some : 0 < point) (within : (point * 10 ^ grid : ℚ) ≤ 2 ^ 25 * 2 ^ (exponent - 1))
    (odd : middle % 2 = 1) (short : middle < 2 ^ 25) :
    ((point * 10 ^ grid : ℚ) = middle * 2 ^ (exponent - 1) ∧ grid.natAbs ≤ 21) ∨
      1025 * (middle * 2 ^ (exponent - 1)) ≤
        2 ^ 62 * |(point * 10 ^ grid : ℚ) - middle * 2 ^ (exponent - 1)| ∨
      middle = exceptionAt exponent := by
  rcases exists_common exponent grid with ⟨common, positive, ten, half⟩
  have isCoarse : IsCoarse exponent grid := by
    rw [← Number.two_zpow_pred exponent] at coarse
    exact isCoarse_iff.mpr (by linarith)
  have isReached : IsReached exponent grid := by
    refine isReached_iff.mpr (le_trans ?_ within)
    exact le_mul_of_one_le_left (by positivity) (by exact_mod_cast some)
  have counted : point * tens exponent grid ≤ 2 ^ 25 * halves exponent grid := by
    rw [← Nat.cast_le (α := ℚ), Nat.cast_mul, Nat.cast_mul, ten, half, mul_left_comm,
      mul_left_comm _ common]
    exact mul_le_mul_of_nonneg_left (by exact_mod_cast within) positive.le
  have gap : (IsAdjacent.gap (tens exponent grid) (halves exponent grid) ⟨middle, point⟩ : ℚ) =
      common * |(point * 10 ^ grid : ℚ) - middle * 2 ^ (exponent - 1)| := by
    rw [IsAdjacent.gap, Nat.cast_natAbs]
    push_cast
    rw [ten, half, ← abs_of_pos positive, ← abs_mul, abs_of_pos positive]
    congr 1
    ring
  have separated := isSeparated least greatest isCoarse isReached
  rcases @IsSeparated.isFar _ _ separated ⟨middle, point⟩ some counted odd short with
    ⟨on, simple⟩ | far | exception
  · rw [on, Nat.cast_zero, zero_eq_mul, or_iff_right positive.ne', abs_eq_zero, sub_eq_zero] at gap
    exact .inl ⟨gap, simple⟩
  · refine .inr (.inl (le_of_mul_le_mul_left ?_ positive))
    rw [IsFar, ← Nat.cast_le (α := ℚ)] at far
    push_cast at far
    rw [half, gap] at far
    linarith
  · exact .inr (.inr exception)

end Shortest

end SpriteScript
