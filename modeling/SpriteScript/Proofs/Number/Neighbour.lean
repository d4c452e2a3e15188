import Mathlib.Tactic.FieldSimp
import Mathlib.Tactic.Qify
import SpriteScript.Proofs.Number.Interval
import SpriteScript.Proofs.Number.Shortest

namespace SpriteScript

/-! The shortest decimal as an exact value: it lies in the interval of values that round to the
number, it is one of the two neighbours of the number on its grid, and the nearer one unless
the interval is narrower on one side. On the next coarser grid there is no such decimal. -/

namespace Shortest

namespace Interval

variable {interval : Interval} {tie : Tie} {power : Int} {point : Nat}

structure IsProper (interval : Interval) : Prop where
  low_lt : interval.low < interval.value
  lt_high : interval.value < interval.high
  numerator_pos : 0 < interval.numerator
  denominator_pos : 0 < interval.denominator

/-- A point of a grid in the interval that is next to the value, in common units. -/
structure IsNeighbour (interval : Interval) (power : Int) (point : Nat) : Prop where
  low_le : interval.low * interval.scale power ≤ point * interval.spacing power
  le_high : point * interval.spacing power ≤ interval.high * interval.scale power
  inside : interval.closed = false →
    interval.low * interval.scale power < point * interval.spacing power ∧
      point * interval.spacing power < interval.high * interval.scale power
  near : point * interval.spacing power <
      interval.value * interval.scale power + interval.spacing power ∧
    interval.value * interval.scale power <
      point * interval.spacing power + interval.spacing power
  nearest : interval.value + interval.value = interval.low + interval.high →
    2 * (point * interval.spacing power) ≤
        2 * (interval.value * interval.scale power) + interval.spacing power ∧
      2 * (interval.value * interval.scale power) ≤
        2 * (point * interval.spacing power) + interval.spacing power

theorem round_cases (tie : Tie) (whole remainder divisor : Nat) :
    tie.round whole remainder divisor = whole ∧ 2 * remainder ≤ divisor ∨
      tie.round whole remainder divisor = whole + 1 ∧ divisor ≤ 2 * remainder := by
  unfold Tie.round
  split
  · next less => exact .inl ⟨rfl, (Nat.compare_eq_lt.mp less).le⟩
  · next more => exact .inr ⟨rfl, (Nat.compare_eq_gt.mp more).le⟩
  · next same =>
      have same := Nat.compare_eq_eq.mp same
      cases tie with
      | upward => exact .inr ⟨rfl, same.ge⟩
      | even =>
          rcases Nat.mod_two_eq_zero_or_one whole with even | odd
          · exact .inl ⟨congrArg (whole + ·) even, same.le⟩
          · exact .inr ⟨congrArg (whole + ·) odd, same.ge⟩

theorem of_reaches {closed : Bool} {small large : Nat}
    (reaches : (if closed = true then decide (small ≤ large) else decide (small < large)) = true) :
    small ≤ large ∧ (closed = false → small < large) := by
  cases closed with
  | false =>
      have less := of_decide_eq_true reaches
      exact ⟨Nat.le_of_lt less, fun _ => less⟩
  | true => exact ⟨of_decide_eq_true reaches, fun same => by cases same⟩

theorem of_not_reaches {closed : Bool} {small large : Nat}
    (beyond : (if closed = true then decide (small ≤ large) else decide (small < large)) = false) :
    large ≤ small := by
  cases closed with
  | false => exact Nat.le_of_not_lt (of_decide_eq_false beyond)
  | true => exact Nat.le_of_lt (Nat.lt_of_not_le (of_decide_eq_false beyond))

def below (interval : Interval) (power : Int) : Nat :=
  interval.value * interval.scale power / interval.spacing power

def above (interval : Interval) (power : Int) : Nat :=
  interval.value * interval.scale power % interval.spacing power

structure Places (interval : Interval) (power : Int) : Prop where
  division : interval.below power * interval.spacing power + interval.above power =
    interval.value * interval.scale power
  less : interval.above power < interval.spacing power
  next : (interval.below power + 1) * interval.spacing power =
    interval.below power * interval.spacing power + interval.spacing power
  low : interval.low * interval.scale power < interval.value * interval.scale power
  high : interval.value * interval.scale power < interval.high * interval.scale power
  symmetric : interval.value + interval.value = interval.low + interval.high →
    interval.value * interval.scale power + interval.value * interval.scale power =
      interval.low * interval.scale power + interval.high * interval.scale power

theorem IsProper.places (proper : interval.IsProper) (power : Int) : interval.Places power where
  division := Nat.div_add_mod' _ _
  less := Nat.mod_lt _ (Nat.mul_pos proper.denominator_pos (Nat.pow_pos (by decide)))
  next := Nat.succ_mul _ _
  low := Nat.mul_lt_mul_of_pos_right proper.low_lt
    (Nat.mul_pos proper.numerator_pos (Nat.pow_pos (by decide)))
  high := Nat.mul_lt_mul_of_pos_right proper.lt_high
    (Nat.mul_pos proper.numerator_pos (Nat.pow_pos (by decide)))
  symmetric same := by rw [← Nat.add_mul, same, Nat.add_mul]

theorem Places.isNeighbour_below (places : interval.Places power)
    (lower : interval.low * interval.scale power ≤ interval.below power * interval.spacing power ∧
      (interval.closed = false →
        interval.low * interval.scale power < interval.below power * interval.spacing power))
    (near : 2 * interval.above power ≤ interval.spacing power ∨
      interval.high * interval.scale power ≤ (interval.below power + 1) * interval.spacing power) :
    interval.IsNeighbour power (interval.below power) := by
  rcases places with ⟨division, less, next, low, high, symmetric⟩
  refine ⟨lower.1, by omega, fun isOpen => ⟨lower.2 isOpen, by omega⟩, by omega, fun same => ?_⟩
  have sum := symmetric same
  omega

theorem Places.isNeighbour_above (places : interval.Places power)
    (upper : (interval.below power + 1) * interval.spacing power ≤
        interval.high * interval.scale power ∧
      (interval.closed = false → (interval.below power + 1) * interval.spacing power <
        interval.high * interval.scale power))
    (near : interval.spacing power ≤ 2 * interval.above power ∨
      interval.below power * interval.spacing power ≤ interval.low * interval.scale power) :
    interval.IsNeighbour power (interval.below power + 1) := by
  rcases places with ⟨division, less, next, low, high, symmetric⟩
  refine ⟨by omega, upper.1, fun isOpen => ⟨by omega, upper.2 isOpen⟩, by omega, fun same => ?_⟩
  have sum := symmetric same
  omega

theorem Places.lower (places : interval.Places power)
    (inside : (interval.above power == 0 ||
      (if interval.closed = true then
        decide (interval.low * interval.scale power ≤
          interval.below power * interval.spacing power)
      else
        decide (interval.low * interval.scale power <
          interval.below power * interval.spacing power))) = true) :
    interval.low * interval.scale power ≤ interval.below power * interval.spacing power ∧
      (interval.closed = false →
        interval.low * interval.scale power < interval.below power * interval.spacing power) := by
  rcases Bool.or_eq_true_iff.mp inside with none | reaches
  · have division := places.division
    have low := places.low
    rw [beq_iff_eq.mp none, Nat.add_zero] at division
    rw [division]
    exact ⟨low.le, fun _ => low⟩
  · exact of_reaches reaches

theorem IsProper.isNeighbour (proper : interval.IsProper)
    (found : interval.neighbour? tie power = some point) :
    interval.IsNeighbour power point := by
  have places := proper.places power
  rw [neighbour?] at found
  dsimp only at found
  split at found
  · next lower upper =>
      cases found
      rcases round_cases tie (interval.below power) (interval.above power)
        (interval.spacing power) with ⟨same, near⟩ | ⟨same, near⟩
      · exact same ▸ places.isNeighbour_below (places.lower lower) (.inl near)
      · exact same ▸ places.isNeighbour_above (of_reaches upper) (.inl near)
  · next lower upper =>
      cases found
      exact places.isNeighbour_below (places.lower lower) (.inr (of_not_reaches upper))
  · next lower upper =>
      cases found
      exact places.isNeighbour_above (of_reaches upper)
        (.inr (of_not_reaches (Bool.or_eq_false_iff.mp lower).2))
  · cases found

/-! ## Exact values -/

theorem ten_zpow_toNat (power : Int) :
    (10 : ℚ) ^ (-power).toNat * 10 ^ power = 10 ^ power.toNat := by
  rw [← zpow_natCast, ← zpow_natCast, ← zpow_add₀ (by norm_num)]
  congr 1
  omega

theorem IsProper.exists_common (proper : interval.IsProper) (power : Int) :
    ∃ common : ℚ, 0 < common ∧ interval.scale power = common * interval.unit ∧
      interval.spacing power = common * 10 ^ power := by
  have denominator : (0 : ℚ) < interval.denominator := by exact_mod_cast proper.denominator_pos
  refine ⟨interval.denominator * 10 ^ (-power).toNat, by positivity, ?_, ?_⟩
  · rw [scale, unit, Nat.pow_eq]
    push_cast
    field_simp
  · rw [spacing, Nat.pow_eq, mul_assoc, ten_zpow_toNat]
    push_cast
    rfl

/-- An exact value in the interval that is at a point of a grid next to the value. -/
structure IsNear (interval : Interval) (grid : Int) (exact : ℚ) : Prop
    extends interval.Holds exact where
  near : |exact - interval.value * interval.unit| < 10 ^ grid
  nearest : interval.value + interval.value = interval.low + interval.high →
    |exact - interval.value * interval.unit| ≤ 10 ^ grid / 2

theorem IsNear.nearest_around {mantissa : Nat} {exponent grid : Int} {exact : ℚ}
    (isNear : (around mantissa exponent false).IsNear grid exact) (positive : 0 < mantissa) :
    |exact - mantissa * 2 ^ exponent| ≤ 10 ^ grid / 2 := by
  have low := low_add_two positive exponent
  rw [← @value_around mantissa exponent false]
  apply isNear.nearest
  dsimp only [around] at low ⊢
  omega

theorem IsNeighbour.isNear (proper : interval.IsProper)
    (neighbour : interval.IsNeighbour power point) :
    interval.IsNear power (point * 10 ^ power) := by
  rcases proper.exists_common power with ⟨common, positive, scaled, spaced⟩
  rcases neighbour with ⟨low, high, inside, near, nearest⟩
  -- All inequalities are divided by the common scale.
  have divide {left right : ℚ} : common * left ≤ common * right → left ≤ right :=
    fun le => le_of_mul_le_mul_left le positive
  have divideLt {left right : ℚ} : common * left < common * right → left < right :=
    fun less => lt_of_mul_lt_mul_left less positive.le
  qify at low high inside near nearest
  simp only [scaled, spaced] at low high inside near nearest
  refine ⟨⟨divide ?_, divide ?_, fun isOpen => ⟨divideLt ?_, divideLt ?_⟩⟩,
    abs_sub_lt_iff.mpr ⟨divideLt ?_, divideLt ?_⟩,
    fun same => abs_sub_le_iff.mpr ⟨divide ?_, divide ?_⟩⟩
  · linarith
  · linarith
  · linarith [(inside isOpen).1]
  · linarith [(inside isOpen).2]
  · linarith
  · linarith
  · linarith [(nearest (by exact_mod_cast same)).1]
  · linarith [(nearest (by exact_mod_cast same)).2]

/-! ## The search -/

theorem search_spec {fuel : Nat} {decimal : Decimal}
    (found : interval.search tie fuel power = decimal)
    (positive : 0 < decimal.digits) :
    ∃ grid point, interval.neighbour? tie grid = some point ∧ power < grid + fuel ∧
      (grid = power ∨ grid < power ∧ interval.neighbour? tie (grid + 1) = none) ∧
      (decimal = ⟨point, grid⟩ ∨ 10 * decimal.digits = point ∧ decimal.exponent = grid + 1) := by
  induction fuel generalizing power with
  | zero =>
      cases found
      cases positive
  | succ fuel induction =>
      rw [search] at found
      split at found
      · next none =>
          rcases induction found with ⟨grid, point, here, within, coarser, same⟩
          refine ⟨grid, point, here, by omega, .inr ?_, same⟩
          rcases coarser with rfl | ⟨less, coarser⟩
          · exact ⟨by omega, by rwa [sub_add_cancel]⟩
          · exact ⟨by omega, coarser⟩
      · next point here =>
          refine ⟨power, point, here, by omega, .inl rfl, ?_⟩
          split at found
          · next stripped =>
              cases found
              exact .inr ⟨Nat.mul_div_cancel' (Nat.dvd_of_mod_eq_zero stripped), rfl⟩
          · exact .inl found.symm

theorem IsProper.lt_magnitude (proper : interval.IsProper) :
    interval.value * interval.unit < 10 ^ (interval.magnitude + 1) := by
  have denominator : (0 : ℚ) < interval.denominator := by exact_mod_cast proper.denominator_pos
  rw [unit, mul_div_assoc', div_lt_iff₀ denominator, magnitude]
  split
  · next above =>
      rw [sub_add_cancel, zpow_natCast]
      have less := lt_pow_toDigits (interval.value * interval.numerator / interval.denominator)
      rw [Nat.div_lt_iff_lt_mul proper.denominator_pos] at less
      exact_mod_cast less
  · next under =>
      have positive : 0 < interval.value * interval.numerator :=
        Nat.mul_pos (Nat.zero_lt_of_lt proper.low_lt) proper.numerator_pos
      rw [← Nat.cast_mul]
      generalize interval.value * interval.numerator = scaled at under positive ⊢
      have some : 0 < (interval.denominator - 1) / scaled := by
        refine Nat.div_pos ?_ positive
        omega
      have least := pow_toDigits_le some
      rw [Nat.le_div_iff_mul_le positive] at least
      have length := @Nat.length_toDigits_pos 10 ((interval.denominator - 1) / scaled)
      generalize (Nat.toDigits 10 ((interval.denominator - 1) / scaled)).length = count
        at least length ⊢
      have power : (-(count : Int) + 1) = -((count - 1 : Nat) : Int) := by omega
      have less : 10 ^ (count - 1) * scaled < interval.denominator := by omega
      rw [power, zpow_neg, zpow_natCast, lt_inv_mul_iff₀ (by positivity)]
      exact_mod_cast less

structure IsFound (interval : Interval) (decimal : Decimal) (grid : Int) (point : Nat) : Prop where
  isNear : interval.IsNear grid (point * 10 ^ grid)
  isDecimal : decimal = ⟨point, grid⟩ ∨ 10 * decimal.digits = point ∧ decimal.exponent = grid + 1
  short : point ≤ 10 ^ 17
  coarse : point ≤ 10 ∨ (interval.high - interval.low) * interval.unit ≤ 10 ^ (grid + 1)

theorem IsProper.point_le (proper : interval.IsProper) {grid : Int} {count : Nat}
    (isNear : interval.IsNear grid (point * 10 ^ grid))
    (within : interval.magnitude + 1 ≤ grid + count) :
    point ≤ 10 ^ count := by
  have scale : (0 : ℚ) < 10 ^ grid := by positivity
  have near := (abs_sub_lt_iff.mp isNear.near).1
  have less := proper.lt_magnitude
  have powers : (10 : ℚ) ^ (interval.magnitude + 1) ≤ 10 ^ count * 10 ^ grid := by
    rw [← zpow_natCast, ← zpow_add₀ (by norm_num)]
    exact zpow_le_zpow_right₀ (by norm_num) (by omega)
  have bound : (point : ℚ) * 10 ^ grid < (10 ^ count + 1) * 10 ^ grid := by linarith
  have below : point < 10 ^ count + 1 := by exact_mod_cast lt_of_mul_lt_mul_right bound scale.le
  omega

/-- Where there is no neighbour in the interval, it is not wider than the grid. -/
theorem IsProper.width_le (proper : interval.IsProper)
    (none : interval.neighbour? tie power = none) :
    (interval.high - interval.low) * interval.unit ≤ 10 ^ power := by
  rcases proper.exists_common power with ⟨common, positive, scaled, spaced⟩
  have wide : (interval.high - interval.low) * interval.scale power ≤ interval.spacing power := by
    by_contra narrower
    have found := neighbour?_isSome tie (Nat.lt_of_not_le narrower)
    rw [none] at found
    cases found
  qify [proper.low_lt.le.trans proper.lt_high.le] at wide
  rw [scaled, spaced] at wide
  refine le_of_mul_le_mul_left ?_ positive
  linarith

theorem IsProper.isFound (proper : interval.IsProper) {decimal : Decimal}
    (found : interval.search tie digitLimit interval.magnitude = decimal)
    (positive : 0 < decimal.digits) : ∃ grid point, interval.IsFound decimal grid point := by
  rcases search_spec found positive with ⟨grid, point, here, within, coarser, isDecimal⟩
  have isNear := (proper.isNeighbour here).isNear proper
  refine ⟨grid, point, isNear, isDecimal, proper.point_le isNear ?_, ?_⟩
  · rw [digitLimit] at within
    omega
  · rcases coarser with rfl | ⟨-, none⟩
    · have few : point ≤ 10 ^ 1 := proper.point_le isNear (by omega)
      exact .inl few
    · exact .inr (proper.width_le none)

/-! ## Intervals around numbers -/

variable {mantissa : Nat} {exponent : Int} {narrowBelow : Bool}

theorem around_isProper (positive : 0 < mantissa) :
    (around mantissa exponent narrowBelow).IsProper where
  low_lt := by
    dsimp only [around]
    cases narrowBelow <;> simp only [Bool.false_eq_true, if_false, if_true] <;> omega
  lt_high := Nat.lt_add_of_pos_right (by decide)
  numerator_pos := Nat.pow_pos (by decide)
  denominator_pos := Nat.pow_pos (by decide)

end Interval

theorem isFound_decimal (tie : Tie) {mantissa : Nat} (positive : 0 < mantissa)
    (small : mantissa < 2 ^ 53) (exponent : Int) {narrowBelow : Bool}
    (narrow : narrowBelow = true → mantissa ≤ 2 ^ 52) :
    ∃ grid point, (Interval.around mantissa exponent narrowBelow).IsFound
      (decimal tie mantissa exponent narrowBelow) grid point :=
  (Interval.around_isProper positive).isFound rfl (decimal_pos tie positive small exponent narrow)

end Shortest

end SpriteScript
