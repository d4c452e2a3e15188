import SpriteScript.Number.Shortest
import SpriteScript.Proofs.Number.Exact

namespace SpriteScript

/-! The interval around a number holds exactly the values that are rounded to it. -/

open Float.Model (Format UnpackedFloat)
open Number

namespace Shortest

namespace Interval

def unit (interval : Interval) : ℚ := interval.numerator / interval.denominator

/-- Whether an exact value is in an interval; the ends belong to it where it is closed. -/
structure Holds (interval : Interval) (exact : ℚ) : Prop where
  low_le : interval.low * interval.unit ≤ exact
  le_high : exact ≤ interval.high * interval.unit
  inside : interval.closed = false →
    interval.low * interval.unit < exact ∧ exact < interval.high * interval.unit

variable {mantissa : Nat} {exponent : Int} {narrowBelow : Bool}

theorem unit_around : (around mantissa exponent narrowBelow).unit = 2 ^ (exponent - 2) := by
  have denominator : (2 : ℚ) ^ (2 - exponent).toNat ≠ 0 := by positivity
  rw [unit, around, Nat.pow_eq, Nat.pow_eq]
  push_cast
  rw [div_eq_iff denominator, ← zpow_natCast, ← zpow_natCast, ← two_zpow_add]
  congr 1
  omega

theorem four_units : (2 : ℚ) ^ exponent = 4 * (around mantissa exponent narrowBelow).unit := by
  rw [unit_around, show (4 : ℚ) = 2 ^ (2 : Int) by norm_num, ← two_zpow_add, add_sub_cancel]

theorem value_around : ((around mantissa exponent narrowBelow).value : ℚ) *
    (around mantissa exponent narrowBelow).unit = mantissa * 2 ^ exponent := by
  rw [@four_units mantissa exponent narrowBelow, around]
  push_cast
  ring

theorem high_around (narrowBelow : Bool) : ((around mantissa exponent narrowBelow).high : ℚ) *
    (around mantissa exponent narrowBelow).unit = mantissa * 2 ^ exponent + 2 ^ exponent / 2 := by
  rw [@four_units mantissa exponent narrowBelow, around]
  push_cast
  ring

theorem low_add_two (positive : 0 < mantissa) (exponent : Int) :
    (around mantissa exponent false).low + 2 = 4 * mantissa :=
  Nat.sub_add_cancel (show 2 ≤ 4 * mantissa by omega)

theorem low_around (positive : 0 < mantissa) : ((around mantissa exponent false).low : ℚ) *
    (around mantissa exponent false).unit = mantissa * 2 ^ exponent - 2 ^ exponent / 2 := by
  have low := low_add_two positive exponent
  qify at low
  rw [@four_units mantissa exponent false, eq_sub_of_add_eq low]
  ring

theorem low_around_narrow (positive : 0 < mantissa) : ((around mantissa exponent true).low : ℚ) *
    (around mantissa exponent true).unit = mantissa * 2 ^ exponent - 2 ^ exponent / 4 := by
  have low : (around mantissa exponent true).low + 1 = 4 * mantissa :=
    Nat.sub_add_cancel (show 1 ≤ 4 * mantissa by omega)
  qify at low
  rw [@four_units mantissa exponent true, eq_sub_of_add_eq low]
  ring

theorem even_of_closed (closed : (around mantissa exponent narrowBelow).closed ≠ false) :
    Even (mantissa : Int) := by
  have even : mantissa % 2 = 0 := beq_iff_eq.mp (Bool.eq_true_of_not_eq_false closed)
  exact Int.even_iff.mpr (by omega)

variable {exact : ℚ}

theorem Holds.even_high (holds : (around mantissa exponent narrowBelow).Holds exact)
    (ends : exact = mantissa * 2 ^ exponent + 2 ^ exponent / 2) : Even (mantissa : Int) := by
  rw [← high_around narrowBelow] at ends
  exact even_of_closed fun isOpen => (holds.inside isOpen).2.ne ends

theorem Holds.even_low (holds : (around mantissa exponent false).Holds exact)
    (positive : 0 < mantissa) (ends : exact = mantissa * 2 ^ exponent - 2 ^ exponent / 2) :
    Even (mantissa : Int) := by
  rw [← low_around positive] at ends
  exact even_of_closed fun isOpen => (holds.inside isOpen).1.ne' ends

/-! ## Rounding -/

variable {format : Format}

theorem rounds_of_near (least : format.minExponent ≤ exponent) (positive : 0 < mantissa)
    (short : mantissa < 2 ^ format.mantissaBits)
    (long : format.minExponent < exponent → 2 ^ (exponent + format.mantissaBits - 1) ≤ exact)
    (near : |exact - mantissa * 2 ^ exponent| ≤ 2 ^ exponent / 2)
    (even : |exact - mantissa * 2 ^ exponent| = 2 ^ exponent / 2 → Even (mantissa : Int)) :
    Rounds format exact (mantissa * 2 ^ exponent) := by
  have step := two_zpow_pos exponent
  have some : (1 : ℚ) ≤ mantissa := by exact_mod_cast positive
  have next : (mantissa : ℚ) + 1 ≤ 2 ^ format.mantissaBits := by exact_mod_cast short
  have more := mul_le_mul_of_nonneg_right some step.le
  have less := mul_le_mul_of_nonneg_right next step.le
  rcases abs_le.mp near with ⟨above, below⟩
  have nonneg : 0 ≤ exact := by linarith
  refine ⟨exponent, mantissa, ⟨least, ?_, ?_⟩, by rw [Int.cast_natCast], near, even⟩
  · rw [abs_of_nonneg nonneg, two_zpow_add, zpow_natCast]
    linarith
  · rwa [abs_of_nonneg nonneg]

theorem two_pow_le_of_long (long : 2 ^ (format.mantissaBits - 1) ≤ mantissa) :
    2 ^ (exponent + format.mantissaBits - 1) ≤ (mantissa * 2 ^ exponent : ℚ) := by
  have longCast : (2 : ℚ) ^ (format.mantissaBits - 1) ≤ mantissa := by exact_mod_cast long
  have bits := mantissaBits_pos format
  have power : exponent + format.mantissaBits - 1 = (format.mantissaBits - 1 : Nat) + exponent := by
    omega
  rw [power, two_zpow_add, zpow_natCast]
  exact mul_le_mul_of_nonneg_right longCast (two_zpow_pos exponent).le

/-- Values below a power of two stand on a finer grid. -/
theorem rounds_below_power (least : format.minExponent < exponent)
    (power : mantissa = 2 ^ format.mantissaBitsWithoutImplicit)
    (above : mantissa * 2 ^ exponent - 2 ^ exponent / 4 ≤ exact)
    (below : exact < mantissa * 2 ^ exponent) : Rounds format exact (mantissa * 2 ^ exponent) := by
  have half := two_zpow_pred exponent
  have quarter := two_zpow_pred (exponent - 1)
  have finest := two_zpow_pos (exponent - 1 - 1)
  have same : (mantissa * 2 ^ exponent : ℚ) = ((2 * mantissa : Int) : ℚ) * 2 ^ (exponent - 1) := by
    rw [← half]
    push_cast
    ring
  have scaled : (mantissa * 2 ^ exponent : ℚ) = 2 ^ (exponent - 1 + format.mantissaBits) := by
    have bits : exponent - 1 + format.mantissaBits =
        (format.mantissaBitsWithoutImplicit : Int) + exponent := by
      rw [Format.mantissaBits]
      omega
    rw [bits, two_zpow_add, zpow_natCast, power, Nat.cast_pow, Nat.cast_ofNat]
  have large : (2 : ℚ) ^ exponent ≤ mantissa * 2 ^ exponent := by
    rw [power]
    exact le_mul_of_one_le_left (two_zpow_pos exponent).le (by exact_mod_cast Nat.one_le_two_pow)
  have nonneg : 0 ≤ exact := by linarith
  have near : |exact - mantissa * 2 ^ exponent| ≤ 2 ^ (exponent - 1) / 2 :=
    abs_le.mpr ⟨by linarith, by linarith⟩
  refine ⟨exponent - 1, 2 * mantissa, ⟨by omega, ?_, fun _ => ?_⟩, same, same ▸ near,
    fun _ => even_two_mul _⟩
  · rwa [abs_of_nonneg nonneg, ← scaled]
  · have pred := two_zpow_pred (exponent - 1 + format.mantissaBits)
    rw [← scaled] at pred
    rw [abs_of_nonneg nonneg]
    linarith

/-! Only a power of two has a neighbour below that is nearer. -/

theorem two_pow_le_of_wide (wide : Binary.narrowBelow format mantissa exponent = false)
    (more : format.minExponent < exponent) (long : 2 ^ (format.mantissaBits - 1) ≤ mantissa)
    (low : mantissa * 2 ^ exponent - 2 ^ exponent / 2 ≤ exact) :
    2 ^ (exponent + format.mantissaBits - 1) ≤ exact := by
  have other : 2 ^ (format.mantissaBits - 1) ≠ mantissa := by
    intro power
    rw [Format.mantissaBits, Nat.add_sub_cancel_left] at power
    rw [Binary.narrowBelow_iff.mpr ⟨power.symm, more⟩] at wide
    cases wide
  have longer := Nat.lt_of_le_of_ne long other
  have pred := @two_pow_le_of_long _ exponent _ (Nat.le_pred_of_lt longer)
  rw [Nat.pred_eq_sub_one, Nat.cast_pred (Nat.zero_lt_of_lt longer)] at pred
  linarith [two_zpow_pos exponent]

/-- A value in the interval around a number is rounded to it. -/
theorem Holds.rounds {sign : UnpackedFloat.Sign} {positive : 0 < mantissa}
    (canonical : IsCanonical format (.finite sign mantissa exponent positive))
    (holds : (around mantissa exponent (Binary.narrowBelow format mantissa exponent)).Holds exact) :
    Rounds format exact (mantissa * 2 ^ exponent) := by
  cases canonical with | finite least short long =>
  have step := two_zpow_pos exponent
  have high := holds.le_high
  have evenHigh := holds.even_high
  rw [high_around] at high
  rcases le_or_gt (mantissa * 2 ^ exponent : ℚ) exact with above | below
  · refine rounds_of_near least positive short
      (fun more => (two_pow_le_of_long (long more)).trans above) ?_ ?_
    · rw [abs_of_nonneg (sub_nonneg.mpr above)]
      linarith
    · rw [abs_of_nonneg (sub_nonneg.mpr above)]
      exact fun ends => evenHigh (by linarith)
  cases narrow : Binary.narrowBelow format mantissa exponent with
  | true =>
      have low := holds.low_le
      rw [narrow, low_around_narrow positive] at low
      rcases Binary.narrowBelow_iff.mp narrow with ⟨power, more⟩
      exact rounds_below_power more power low below
  | false =>
      rw [narrow] at holds
      have low := holds.low_le
      rw [low_around positive] at low
      refine rounds_of_near least positive short
        (fun more => two_pow_le_of_wide narrow more (long more) low) ?_ ?_
      · rw [abs_of_neg (sub_neg.mpr below)]
        linarith
      · rw [abs_of_neg (sub_neg.mpr below)]
        exact fun ends => holds.even_low positive (by linarith)

end Interval

end Shortest

end SpriteScript
