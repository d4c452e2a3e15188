import SpriteScript.Proofs.Number.Middle
import SpriteScript.Proofs.Number.Neighbour

namespace SpriteScript

/-! Decimals of single width that are read in double width. The two roundings there do not lead
out of the interval around the number: the decimal is nearer to the number than to the ends, or
it stands on a grid whose points are far from all ends, or it is an end and no rounding is
needed. -/

open Float.Model (Format UnpackedFloat)
open Number

namespace Shortest

/-- Whether two roundings of double width may lead from one value to another. -/
structure IsClose (exact scaled : ℚ) : Prop where
  apart : |exact - scaled| * 2 ^ 63 ≤ 2049 * exact

variable {exact scaled middle : ℚ}

theorem IsClose.sides (close : IsClose exact scaled) (positive : 0 < middle)
    (far : 1025 * middle ≤ 2 ^ 62 * |exact - middle|) :
    (exact ≤ middle → scaled < middle) ∧ (middle ≤ exact → middle < scaled) := by
  have apart := close.apart
  rcases abs_le.mp (le_refl |exact - scaled|) with ⟨below, above⟩
  constructor
  · intro le
    rw [abs_of_nonpos (sub_nonpos.mpr le)] at far
    linarith
  · intro le
    rw [abs_of_nonneg (sub_nonneg.mpr le)] at far
    linarith

/-- Whether the values that a decimal may be read as are in an interval. -/
structure IsSteady (interval : Interval) (decimal : Decimal) : Prop where
  positive : 0 < decimal.digits
  short : decimal.digits ≤ 2 ^ 28
  least : -60 ≤ decimal.exponent
  greatest : decimal.exponent ≤ 60
  holds {scaled : ℚ} : IsClose (decimal.digits * 10 ^ decimal.exponent) scaled →
    (decimal.exponent.natAbs ≤ 22 →
      Rounds .binary64 (decimal.digits * 10 ^ decimal.exponent) scaled) → interval.Holds scaled

/-! ## Points near a number -/

namespace Interval

variable {mantissa : Nat} {exponent : Int} {grid : Int} {point : Nat} {decimal : Decimal}

theorem IsFound.value_eq {interval : Interval} (found : interval.IsFound decimal grid point) :
    (decimal.digits * 10 ^ decimal.exponent : ℚ) = point * 10 ^ grid := by
  rcases found.isDecimal with rfl | ⟨rfl, same⟩
  · rfl
  · rw [same, zpow_add_one₀ (by norm_num)]
    push_cast
    ring

/-! The ends of an interval are the middles between numbers. -/

theorem middles (mantissa : Nat) (exponent : Int) :
    (mantissa * 2 ^ exponent + 2 ^ exponent / 2 : ℚ) =
      ((2 * mantissa + 1 : Nat) : ℚ) * 2 ^ (exponent - 1) := by
  rw [← two_zpow_pred exponent]
  push_cast
  ring

theorem middles_below {mantissa : Nat} (positive : 0 < mantissa) (exponent : Int) :
    (mantissa * 2 ^ exponent - 2 ^ exponent / 2 : ℚ) =
      ((2 * mantissa - 1 : Nat) : ℚ) * 2 ^ (exponent - 1) := by
  have pred : 2 * mantissa - 1 + 1 = 2 * mantissa := by omega
  qify at pred
  rw [← two_zpow_pred exponent, eq_sub_of_add_eq pred]
  ring

/-- A number of single width with as much space below it as above it. -/
structure IsUniform (mantissa : Nat) (exponent : Int) : Prop where
  positive : 0 < mantissa
  short : mantissa < 2 ^ 24
  least : -149 ≤ exponent
  greatest : exponent ≤ 104

namespace IsUniform

variable (uniform : IsUniform mantissa exponent)
include uniform

theorem high_le : (mantissa * 2 ^ exponent + 2 ^ exponent / 2 : ℚ) ≤ 2 ^ 24 * 2 ^ exponent := by
  have next : (mantissa : ℚ) + 1 ≤ 2 ^ 24 := by exact_mod_cast uniform.short
  have scaled := mul_le_mul_of_nonneg_right next (two_zpow_pos exponent).le
  have step := two_zpow_pos exponent
  linarith

theorem le_low : (2 ^ exponent / 2 : ℚ) ≤ mantissa * 2 ^ exponent - 2 ^ exponent / 2 := by
  have some : (1 : ℚ) ≤ mantissa := by exact_mod_cast uniform.positive
  have scaled := mul_le_mul_of_nonneg_right some (two_zpow_pos exponent).le
  linarith

theorem holds_of_fine (near : |exact - mantissa * 2 ^ exponent| ≤ 10 ^ grid / 2)
    (fine : 1024 * 10 ^ grid ≤ 1023 * (2 : ℚ) ^ exponent) (close : IsClose exact scaled) :
    (around mantissa exponent false).Holds scaled := by
  have step := two_zpow_pos exponent
  have high := uniform.high_le
  have apart := close.apart
  rcases abs_le.mp near with ⟨above, below⟩
  rcases abs_le.mp (le_refl |exact - scaled|) with ⟨less, more⟩
  have inside : mantissa * 2 ^ exponent - 2 ^ exponent / 2 < scaled ∧
      scaled < mantissa * 2 ^ exponent + 2 ^ exponent / 2 := by
    constructor <;> linarith
  rw [← low_around uniform.positive, ← high_around false] at inside
  exact ⟨inside.1.le, inside.2.le, fun _ => inside⟩

/-- A point on an end is a number of double width, so that it is read without rounding. -/
theorem eq_of_end {middle : Nat} (short : middle < 2 ^ 25)
    (same : exact = middle * 2 ^ (exponent - 1)) (rounds : Rounds .binary64 exact scaled) :
    scaled = exact := by
  have isNumber : IsNumber .binary64 (((middle : Int) : ℚ) * 2 ^ (exponent - 1)) := by
    refine isNumber_of_le (Int.natCast_nonneg _) ?_ ?_
    · exact_mod_cast short.le.trans (by decide)
    · have least := uniform.least
      have greater : Format.minExponent .binary64 ≤ -150 := by decide
      omega
  rw [Int.cast_natCast, ← same] at isNumber
  exact rounds.eq_of_isNumber isNumber

end IsUniform

theorem IsUniform.end_cases (uniform : IsUniform mantissa exponent) {middle : Nat}
    (odd : middle % 2 = 1) (short : middle < 2 ^ 25) (other : middle ≠ exceptionAt exponent)
    (coarse : 1023 * (2 : ℚ) ^ exponent < 1024 * 10 ^ grid) (some : 0 < point)
    (within : (point * 10 ^ grid : ℚ) ≤ 2 ^ 25 * 2 ^ (exponent - 1))
    (close : IsClose (point * 10 ^ grid) scaled)
    (simple : grid.natAbs ≤ 21 → Rounds .binary64 (point * 10 ^ grid) scaled) :
    scaled = point * 10 ^ grid ∨
      ((point * 10 ^ grid : ℚ) ≤ middle * 2 ^ (exponent - 1) →
        scaled < middle * 2 ^ (exponent - 1)) ∧
      (middle * 2 ^ (exponent - 1) ≤ (point * 10 ^ grid : ℚ) →
        middle * 2 ^ (exponent - 1) < scaled) := by
  have positive : (0 : ℚ) < middle * 2 ^ (exponent - 1) :=
    mul_pos (by exact_mod_cast (show 0 < middle by omega)) (two_zpow_pos _)
  rcases middle_far uniform.least uniform.greatest coarse some within odd short with
    ⟨same, small⟩ | far | exception
  · exact .inl (uniform.eq_of_end short same (simple small))
  · exact .inr (close.sides positive far)
  · exact absurd exception other

theorem IsUniform.holds_of_coarse (uniform : IsUniform mantissa exponent)
    (other : ∀ middle, middle = exceptionAt exponent →
      2 * mantissa + 1 ≠ middle ∧ 2 * mantissa - 1 ≠ middle)
    (holds : (around mantissa exponent false).Holds (point * 10 ^ grid)) (some : 0 < point)
    (coarse : 1023 * (2 : ℚ) ^ exponent < 1024 * 10 ^ grid)
    (close : IsClose (point * 10 ^ grid) scaled)
    (simple : grid.natAbs ≤ 21 → Rounds .binary64 (point * 10 ^ grid) scaled) :
    (around mantissa exponent false).Holds scaled := by
  rcases holds with ⟨low, high, inside⟩
  have positive := uniform.positive
  have short := uniform.short
  have within := high
  rw [high_around] at within
  replace within := within.trans uniform.high_le
  rw [← two_zpow_pred exponent, ← mul_assoc] at within
  norm_num only at within
  have upper := uniform.end_cases (by omega) (by omega) (other _ rfl).1 coarse some
    (by norm_num only; exact within) close simple
  have lower := uniform.end_cases (by omega) (by omega) (other _ rfl).2 coarse some
    (by norm_num only; exact within) close simple
  rw [← middles, ← high_around false] at upper
  rw [← middles_below positive, ← low_around positive] at lower
  rcases upper with same | ⟨upper, -⟩
  · exact same ▸ ⟨low, high, inside⟩
  rcases lower with same | ⟨-, lower⟩
  · exact same ▸ ⟨low, high, inside⟩
  · exact ⟨(lower low).le, (upper high).le, fun _ => ⟨lower low, upper high⟩⟩

/-! ## Bounds -/

section

variable (uniform : IsUniform mantissa exponent)
  (found : (around mantissa exponent false).IsFound decimal grid point)
include uniform found

theorem IsFound.ends : (2 ^ exponent / 2 : ℚ) ≤ point * 10 ^ grid ∧
    (point * 10 ^ grid : ℚ) ≤ 2 ^ 24 * 2 ^ exponent := by
  have low := found.isNear.low_le
  have high := found.isNear.le_high
  rw [low_around uniform.positive] at low
  rw [high_around] at high
  exact ⟨uniform.le_low.trans low, high.trans uniform.high_le⟩

theorem IsFound.point_pos : 0 < point := by
  by_contra none
  have atLeast := (found.ends uniform).1
  rw [Nat.eq_zero_of_not_pos none, Nat.cast_zero, zero_mul] at atLeast
  linarith [two_zpow_pos exponent]

/-- A tenth of the spacing is not above the grid. -/
theorem IsFound.wide : (2 : ℚ) ^ exponent ≤ 20 * 10 ^ grid ∧ point ≤ 2 ^ 28 := by
  rcases found.ends uniform with ⟨atLeast, atMost⟩
  have unit : (0 : ℚ) < 10 ^ grid := by positivity
  rcases found.coarse with few | wide
  · have fewCast : (point : ℚ) ≤ 10 := by exact_mod_cast few
    have scaled := mul_le_mul_of_nonneg_right fewCast unit.le
    exact ⟨by linarith, few.trans (by decide)⟩
  · rw [sub_mul, high_around, low_around uniform.positive, zpow_add_one₀ (by norm_num)] at wide
    have bound : (point : ℚ) * 10 ^ grid ≤ 2 ^ 28 * 10 ^ grid := by linarith
    exact ⟨by linarith, by exact_mod_cast le_of_mul_le_mul_right bound unit⟩

theorem IsFound.grid_bounds : -60 ≤ grid ∧ grid < 60 := by
  constructor
  · by_contra less
    have tens : (10 : ℚ) ^ grid ≤ 10 ^ (-61 : Int) :=
      zpow_le_zpow_right₀ (by norm_num) (by omega)
    have twos := two_zpow_le.mpr uniform.least
    norm_num at tens twos
    linarith [(found.wide uniform).1]
  · by_contra more
    have some : (1 : ℚ) ≤ point := by exact_mod_cast found.point_pos uniform
    have tens : (10 : ℚ) ^ (60 : Int) ≤ 10 ^ grid :=
      zpow_le_zpow_right₀ (by norm_num) (by omega)
    have twos := two_zpow_le.mpr uniform.greatest
    have scaled := mul_le_mul_of_nonneg_right some (show (0 : ℚ) ≤ 10 ^ grid by positivity)
    norm_num at tens twos
    linarith [(found.ends uniform).2]

end

theorem isSteady_of_uniform (uniform : IsUniform mantissa exponent)
    (other : ∀ middle, middle = exceptionAt exponent →
      2 * mantissa + 1 ≠ middle ∧ 2 * mantissa - 1 ≠ middle)
    (found : (around mantissa exponent false).IsFound decimal grid point) :
    IsSteady (around mantissa exponent false) decimal := by
  have some := found.point_pos uniform
  have short := (found.wide uniform).2
  rcases found.grid_bounds uniform with ⟨least, greatest⟩
  have near := found.isNear.nearest_around uniform.positive
  have parts : (0 < decimal.digits ∧ decimal.digits ≤ point) ∧
      (decimal.exponent = grid ∨ decimal.exponent = grid + 1) := by
    rcases found.isDecimal with rfl | ⟨rfl, same⟩
    · exact ⟨⟨some, le_rfl⟩, .inl rfl⟩
    · exact ⟨by omega, .inr same⟩
  refine ⟨by omega, by omega, by omega, by omega, fun close rounds => ?_⟩
  rw [found.value_eq] at close rounds
  rcases le_or_gt (1024 * (10 : ℚ) ^ grid) (1023 * 2 ^ exponent) with fine | coarse
  · exact uniform.holds_of_fine near fine close
  · exact uniform.holds_of_coarse other found.isNear.toHolds some coarse close
      fun simple => rounds (by omega)

end Interval

/-! ## Powers of two -/

/-- Whether a decimal for a power of two is far from both ends of the interval. -/
structure IsClear (exponent : Int) (decimal : Decimal) : Prop where
  positive : 0 < decimal.digits
  short : decimal.digits ≤ 2 ^ 28
  least : -60 ≤ decimal.exponent
  greatest : decimal.exponent ≤ 60
  below : (2 ^ 25 - 1) * halves exponent decimal.exponent * 2 ^ 63 <
    2 * decimal.digits * tens exponent decimal.exponent * (2 ^ 63 - 2049)
  above : decimal.digits * tens exponent decimal.exponent * (2 ^ 63 + 2049) <
    (2 ^ 24 + 1) * halves exponent decimal.exponent * 2 ^ 63

instance (exponent : Int) (decimal : Decimal) : Decidable (IsClear exponent decimal) :=
  decidable_of_iff (_ ∧ _ ∧ _ ∧ _ ∧ _ ∧ _)
    ⟨fun ⟨positive, short, least, greatest, below, above⟩ =>
        ⟨positive, short, least, greatest, below, above⟩,
      fun ⟨positive, short, least, greatest, below, above⟩ =>
        ⟨positive, short, least, greatest, below, above⟩⟩

theorem isClear_table : ∀ index < 253,
    IsClear ((index : Nat) - 148) (decimal .even (2 ^ 23) (index - 148) true) := by
  decide +kernel

theorem IsClear.isSteady {mantissa : Nat} (power : mantissa = 2 ^ 23) {exponent : Int}
    {decimal : Decimal} (clear : IsClear exponent decimal) :
    IsSteady (.around mantissa exponent true) decimal := by
  rcases clear with ⟨positive, short, least, greatest, below, above⟩
  refine ⟨positive, short, least, greatest, fun {scaled} close _ => ?_⟩
  rcases exists_common exponent decimal.exponent with ⟨common, some, ten, half⟩
  have low := @Interval.low_around_narrow mantissa exponent (by omega)
  have high := @Interval.high_around mantissa exponent true
  have powerCast : (mantissa : ℚ) = 2 ^ 23 := by exact_mod_cast power
  rw [powerCast, ← two_zpow_pred exponent] at low high
  have apart := close.apart
  rcases abs_le.mp (le_refl |decimal.digits * 10 ^ decimal.exponent - scaled|) with ⟨less, more⟩
  -- The bounds are divided by the common unit.
  rw [← Nat.cast_lt (α := ℚ)] at below above
  push_cast at below above
  rw [ten, half] at below above
  have farBelow : common * (33554431 * 2 ^ (exponent - 1) * 9223372036854775808) <
      common * (2 * (decimal.digits * 10 ^ decimal.exponent) * 9223372036854773759) := by
    linarith
  have farAbove : common * (decimal.digits * 10 ^ decimal.exponent * 9223372036854777857) <
      common * (16777217 * 2 ^ (exponent - 1) * 9223372036854775808) := by
    linarith
  replace farBelow := lt_of_mul_lt_mul_left farBelow some.le
  replace farAbove := lt_of_mul_lt_mul_left farAbove some.le
  have inside : (Interval.around mantissa exponent true).low *
        (Interval.around mantissa exponent true).unit < scaled ∧
      scaled < (Interval.around mantissa exponent true).high *
        (Interval.around mantissa exponent true).unit := by
    rw [low, high]
    constructor <;> linarith
  exact ⟨inside.1.le, inside.2.le, fun _ => inside⟩

/-! ## Numbers of single width -/

/-- The two numbers around the exceptional middle. -/
def IsExceptional (mantissa : Nat) (exponent : Int) : Prop :=
  exponent = -107 ∧ (mantissa = 11420669 ∨ mantissa = 11420670)

theorem isSteady {sign : UnpackedFloat.Sign} {mantissa : Nat} {exponent : Int}
    {positive : 0 < mantissa}
    (canonical : IsCanonical .binary32 (.finite sign mantissa exponent positive))
    (greatest : exponent ≤ 104) (regular : ¬IsExceptional mantissa exponent) :
    IsSteady (.around mantissa exponent (Binary.narrowBelow .binary32 mantissa exponent))
      (decimal .even mantissa exponent (Binary.narrowBelow .binary32 mantissa exponent)) := by
  cases canonical with | finite least short long =>
  cases narrow : Binary.narrowBelow .binary32 mantissa exponent with
  | true =>
      rcases Binary.narrowBelow_iff.mp narrow with ⟨(power : mantissa = 2 ^ 23), more⟩
      have above : -149 < exponent := more
      have listed := isClear_table (exponent + 148).toNat (by omega)
      rw [show ((exponent + 148).toNat : Int) - 148 = exponent by omega, ← power] at listed
      exact listed.isSteady power
  | false =>
      have uniform : Interval.IsUniform mantissa exponent := ⟨positive, short, least, greatest⟩
      rcases isFound_decimal .even positive (short.trans (by decide)) exponent
        (fun narrow : false = true => by cases narrow) with ⟨grid, point, found⟩
      refine Interval.isSteady_of_uniform uniform (fun middle same => ?_) found
      rw [exceptionAt] at same
      rw [IsExceptional] at regular
      split at same
      · rw [nearestMiddle] at same
        omega
      · omega

end Shortest

end SpriteScript
