import Mathlib.Algebra.Order.Field.Basic
import Mathlib.Algebra.Order.Field.Power
import Mathlib.Algebra.Order.Field.Rat
import Mathlib.Algebra.Ring.Int.Parity
import Mathlib.Tactic.Linarith
import Mathlib.Tactic.NormNum
import Mathlib.Tactic.Ring

namespace SpriteScript

/-! Rounding in exact numbers. Around each exact value the numbers of a format stand on a
grid; the value is rounded to the nearest one, and to the even one if two are equally near.
A value that lies between numbers of the format is rounded to one between them. -/

open Float.Model (Format)

namespace Number

/-! ## Powers of two -/

theorem two_zpow_pos (exponent : Int) : (0 : ℚ) < 2 ^ exponent := zpow_pos (by norm_num) _

theorem two_zpow_add (left right : Int) : (2 : ℚ) ^ (left + right) = 2 ^ left * 2 ^ right :=
  zpow_add₀ (by norm_num) _ _

theorem two_zpow_le {left right : Int} : (2 : ℚ) ^ left ≤ 2 ^ right ↔ left ≤ right :=
  zpow_le_zpow_iff_right₀ (by norm_num)

theorem two_zpow_lt {left right : Int} : (2 : ℚ) ^ left < 2 ^ right ↔ left < right :=
  zpow_lt_zpow_iff_right₀ (by norm_num)

theorem two_zpow_succ (exponent : Int) : (2 : ℚ) ^ (exponent + 1) = 2 * 2 ^ exponent := by
  rw [two_zpow_add, zpow_one, mul_comm]

theorem multiple_of_le {lesser greater : Int} (le : lesser ≤ greater) (count : Int) :
    ∃ other : Int, (count : ℚ) * 2 ^ greater = other * 2 ^ lesser := by
  have power : (2 : ℚ) ^ greater = 2 ^ (greater - lesser).toNat * 2 ^ lesser := by
    rw [← zpow_natCast, ← two_zpow_add, Int.toNat_of_nonneg (by omega), sub_add_cancel]
  refine ⟨count * 2 ^ (greater - lesser).toNat, ?_⟩
  rw [power]
  push_cast
  ring

theorem multiple_lt {grid lesser greater : Int} :
    (lesser : ℚ) * 2 ^ grid < greater * 2 ^ grid ↔ lesser < greater := by
  rw [mul_lt_mul_iff_left₀ (two_zpow_pos grid), Int.cast_lt]

theorem multiple_step (grid : Int) {lesser greater : Int} (lt : lesser < greater) :
    (lesser : ℚ) * 2 ^ grid + 2 ^ grid ≤ greater * 2 ^ grid := by
  have next : (lesser : ℚ) + 1 ≤ greater := by exact_mod_cast lt
  have step := mul_le_mul_of_nonneg_right next (two_zpow_pos grid).le
  linarith

/-! ## The grid -/

/-- Whether the numbers around a value are the multiples of a power of two. -/
structure IsGrid (format : Format) (value : ℚ) (grid : Int) : Prop where
  least : format.minExponent ≤ grid
  below : |value| < 2 ^ (grid + format.mantissaBits)
  above : format.minExponent < grid → 2 ^ (grid + format.mantissaBits - 1) ≤ |value|

def Rounds (format : Format) (value number : ℚ) : Prop :=
  ∃ grid mantissa : Int, IsGrid format value grid ∧ number = mantissa * 2 ^ grid ∧
    |value - number| ≤ 2 ^ grid / 2 ∧ (|value - number| = 2 ^ grid / 2 → Even mantissa)

/-- Whether a number has a mantissa and an exponent within a format. The exponent may be
too great to be packed. -/
def IsNumber (format : Format) (number : ℚ) : Prop :=
  ∃ mantissa exponent : Int, number = mantissa * 2 ^ exponent ∧
    |(mantissa : ℚ)| ≤ 2 ^ (format.mantissaBits : Int) ∧ format.minExponent ≤ exponent

variable {format : Format} {value number : ℚ}

theorem mantissaBits_pos (format : Format) : 0 < (format.mantissaBits : Int) := by
  have positive : 0 < 1 + format.mantissaBitsWithoutImplicit := by omega
  exact Int.natCast_pos.mpr positive

theorem IsGrid.neg {grid : Int} (isGrid : IsGrid format value grid) :
    IsGrid format (-value) grid := by
  rcases isGrid with ⟨least, below, above⟩
  rw [← abs_neg] at below above
  exact ⟨least, below, above⟩

theorem Rounds.neg (rounds : Rounds format value number) : Rounds format (-value) (-number) := by
  rcases rounds with ⟨grid, mantissa, isGrid, rfl, near, even⟩
  have same : |-value - -(mantissa * 2 ^ grid)| = |value - mantissa * 2 ^ grid| := by
    rw [← abs_neg]
    congr 1
    ring
  refine ⟨grid, -mantissa, isGrid.neg, ?_, ?_, ?_⟩
  · push_cast
    ring
  · rwa [same]
  · rwa [same, even_neg]

theorem IsNumber.neg (isNumber : IsNumber format number) : IsNumber format (-number) := by
  rcases isNumber with ⟨mantissa, exponent, rfl, short, least⟩
  refine ⟨-mantissa, exponent, ?_, ?_, least⟩
  · push_cast
    ring
  · rwa [Int.cast_neg, abs_neg]

theorem IsNumber.double (isNumber : IsNumber format number) : IsNumber format (2 * number) := by
  rcases isNumber with ⟨mantissa, exponent, rfl, short, least⟩
  refine ⟨mantissa, exponent + 1, ?_, short, by omega⟩
  rw [two_zpow_succ]
  ring

theorem IsNumber.abs_le_edge {mantissa exponent grid : Int}
    (short : |(mantissa : ℚ)| ≤ 2 ^ (format.mantissaBits : Int)) (fine : exponent < grid) :
    |(mantissa : ℚ) * 2 ^ exponent| ≤ 2 ^ (grid + format.mantissaBits - 1) := by
  have positive := two_zpow_pos exponent
  calc |(mantissa : ℚ) * 2 ^ exponent|
    _ = |(mantissa : ℚ)| * 2 ^ exponent := by rw [abs_mul, abs_of_pos positive]
    _ ≤ 2 ^ (format.mantissaBits : Int) * 2 ^ exponent :=
        mul_le_mul_of_nonneg_right short positive.le
    _ = 2 ^ (exponent + format.mantissaBits) := by rw [add_comm, two_zpow_add]
    _ ≤ _ := two_zpow_le.mpr (by omega)

theorem edge_eq (format : Format) (grid : Int) :
    (2 : ℚ) ^ (grid + format.mantissaBits - 1) =
      ((2 ^ (format.mantissaBits - 1) : Int) : ℚ) * 2 ^ grid := by
  have positive := mantissaBits_pos format
  rw [Int.cast_pow, Int.cast_ofNat, ← zpow_natCast, ← two_zpow_add]
  congr 1
  omega

/-! ## Numbers are not crossed -/

theorem IsGrid.multiple_between {grid : Int} (isGrid : IsGrid format value grid)
    (isNumber : IsNumber format number) (le : value ≤ number) :
    ∃ count : Int, value ≤ count * 2 ^ grid ∧ (count : ℚ) * 2 ^ grid ≤ number := by
  rcases isNumber with ⟨mantissa, exponent, rfl, short, least⟩
  by_cases coarse : grid ≤ exponent
  · rcases multiple_of_le coarse mantissa with ⟨count, same⟩
    exact ⟨count, le.trans_eq same, same.ge⟩
  · -- Then the value is at the positive edge of its grid, or at the negative one or below.
    have inside := isGrid.above (by omega)
    have bound := abs_le.mp (IsNumber.abs_le_edge short (not_le.mp coarse))
    rw [edge_eq] at inside bound
    rcases le_abs.mp inside with above | below
    · exact ⟨_, le.trans bound.2, above.trans le⟩
    · refine ⟨-2 ^ (format.mantissaBits - 1), ?_, ?_⟩
      · push_cast at below ⊢
        linarith
      · have least := bound.1
        push_cast at least ⊢
        linarith

theorem Rounds.le_of_le (rounds : Rounds format value number) {other : ℚ}
    (isNumber : IsNumber format other) (le : value ≤ other) : number ≤ other := by
  rcases rounds with ⟨grid, mantissa, isGrid, rfl, near, -⟩
  rcases isGrid.multiple_between isNumber le with ⟨count, above, below⟩
  refine LE.le.trans ?_ below
  by_contra beyond
  have step := multiple_step grid (multiple_lt.mp (not_le.mp beyond))
  have far := (abs_le.mp near).1
  have positive := two_zpow_pos grid
  linarith

theorem Rounds.le_of_ge (rounds : Rounds format value number) {other : ℚ}
    (isNumber : IsNumber format other) (le : other ≤ value) : other ≤ number :=
  neg_le_neg_iff.mp (rounds.neg.le_of_le isNumber.neg (neg_le_neg le))

theorem Rounds.eq_of_isNumber (rounds : Rounds format value number)
    (isNumber : IsNumber format value) : number = value :=
  le_antisymm (rounds.le_of_le isNumber le_rfl) (rounds.le_of_ge isNumber le_rfl)

theorem Rounds.relative (rounds : Rounds format value number)
    (normal : 2 ^ (format.minExponent + format.mantissaBits - 1) ≤ |value|) :
    |value - number| * 2 ^ format.mantissaBits ≤ |value| := by
  rcases rounds with ⟨grid, mantissa, isGrid, rfl, near, -⟩
  have long : (2 : ℚ) ^ (grid + format.mantissaBits - 1) ≤ |value| := by
    rcases isGrid.least.eq_or_lt with finest | coarser
    · rwa [← finest]
    · exact isGrid.above coarser
  refine le_trans ?_ long
  calc |value - mantissa * 2 ^ grid| * 2 ^ format.mantissaBits
    _ ≤ 2 ^ grid / 2 * 2 ^ format.mantissaBits := mul_le_mul_of_nonneg_right near (by positivity)
    _ = 2 ^ (grid + format.mantissaBits - 1) := by
        rw [zpow_sub_one₀ two_ne_zero, two_zpow_add, zpow_natCast]
        ring

/-! ## Overflow -/

def greatestGrid (format : Format) : Int :=
  2 ^ format.exponentBits - 2 - format.exponentBias - format.mantissaBitsWithoutImplicit

def ceiling (format : Format) : ℚ := 2 ^ (greatestGrid format + format.mantissaBits)

def greatest (format : Format) : ℚ := ceiling format - 2 ^ greatestGrid format

def threshold (format : Format) : ℚ := ceiling format - 2 ^ greatestGrid format / 2

theorem threshold_eq (format : Format) :
    threshold format = greatest format + 2 ^ greatestGrid format / 2 := by
  rw [threshold, greatest]
  ring

theorem greatest_lt_threshold (format : Format) : greatest format < threshold format := by
  rw [threshold_eq]
  exact lt_add_of_pos_right _ (half_pos (two_zpow_pos _))

theorem threshold_lt_ceiling (format : Format) : threshold format < ceiling format :=
  sub_lt_self _ (half_pos (two_zpow_pos _))

theorem isNumber_of_le {count exponent : Int} (nonneg : 0 ≤ count)
    (short : count ≤ 2 ^ format.mantissaBits) (least : format.minExponent ≤ exponent) :
    IsNumber format (count * 2 ^ exponent) := by
  have shortCast : (count : ℚ) ≤ 2 ^ format.mantissaBits := by exact_mod_cast short
  refine ⟨count, exponent, rfl, ?_, least⟩
  rwa [zpow_natCast, abs_of_nonneg (by exact_mod_cast nonneg)]

theorem isNumber_zero (format : Format) : IsNumber format 0 :=
  ⟨0, format.minExponent, by simp, by simp, le_rfl⟩

theorem ceiling_eq (format : Format) :
    ceiling format = ((2 ^ format.mantissaBits : Int) : ℚ) * 2 ^ greatestGrid format := by
  rw [ceiling, two_zpow_add, mul_comm]
  push_cast
  rw [zpow_natCast]

structure IsWide (format : Format) : Prop where
  least : format.minExponent ≤ -format.mantissaBits
  greatest : format.mantissaBits ≤ greatestGrid format

theorem IsWide.ceiling (wide : IsWide format) : format.minExponent < greatestGrid format := by
  have least := wide.least
  have greatest := wide.greatest
  have positive := mantissaBits_pos format
  omega

theorem isNumber_ceiling (wide : IsWide format) : IsNumber format (ceiling format) := by
  rw [ceiling_eq]
  exact isNumber_of_le (by positivity) le_rfl wide.ceiling.le

theorem two_zpow_pred (exponent : Int) : 2 * (2 : ℚ) ^ (exponent - 1) = 2 ^ exponent := by
  rw [← two_zpow_succ, sub_add_cancel]

theorem IsGrid.le_of_lt {grid : Int} (isGrid : IsGrid format value grid) {bound : Int}
    (least : format.minExponent ≤ bound) (lt : |value| < 2 ^ (bound + format.mantissaBits)) :
    grid ≤ bound := by
  by_contra beyond
  have inside := two_zpow_lt.mp ((isGrid.above (by omega)).trans_lt lt)
  omega

theorem IsGrid.eq_of_bounds {grid scale : Int} (isGrid : IsGrid format value grid)
    (least : format.minExponent ≤ scale) (long : 2 ^ (scale + format.mantissaBits - 1) ≤ |value|)
    (short : |value| < 2 ^ (scale + format.mantissaBits)) : grid = scale := by
  refine le_antisymm (isGrid.le_of_lt least short) ?_
  have less := two_zpow_lt.mp (long.trans_lt isGrid.below)
  omega

theorem IsGrid.unique {grid other : Int} (isGrid : IsGrid format value grid)
    (isOther : IsGrid format value other) : grid = other :=
  le_antisymm (isGrid.le_of_lt isOther.least isOther.below)
    (isOther.le_of_lt isGrid.least isGrid.below)

/-- Whether a multiple of a grid is within half a step of a value, and even in the middle
between two of them. -/
structure IsNearest (value : ℚ) (grid count : Int) : Prop where
  near : |value - count * 2 ^ grid| ≤ 2 ^ grid / 2
  even : |value - count * 2 ^ grid| = 2 ^ grid / 2 → Even count

theorem IsNearest.le {grid lesser greater : Int} (isLesser : IsNearest value grid lesser)
    (isGreater : IsNearest value grid greater) : greater ≤ lesser := by
  have unit := two_zpow_pos grid
  by_contra apart
  have less := not_le.mp apart
  have step := multiple_step grid less
  have below := (abs_le.mp isLesser.near).2
  have above := (abs_le.mp isGreater.near).1
  -- The value is in the middle, so that neighbours would both be even.
  have middle : value - lesser * 2 ^ grid = 2 ^ grid / 2 := by linarith
  have otherMiddle : value - greater * 2 ^ grid = -(2 ^ grid / 2) := by linarith
  have even := isLesser.even (by rw [middle, abs_of_pos (half_pos unit)])
  have otherEven := isGreater.even (by rw [otherMiddle, abs_neg, abs_of_pos (half_pos unit)])
  have next : greater = lesser + 1 := by
    have counts : (greater : ℚ) * 2 ^ grid = ((lesser + 1 : Int) : ℚ) * 2 ^ grid := by
      push_cast
      linarith
    exact_mod_cast mul_right_cancel₀ unit.ne' counts
  rw [next, Int.even_add_one] at otherEven
  exact otherEven even

theorem Rounds.eq_of_isNearest (rounds : Rounds format value number) {grid count : Int}
    (isGrid : IsGrid format value grid) (isNearest : IsNearest value grid count) :
    number = count * 2 ^ grid := by
  rcases rounds with ⟨own, mantissa, isOwn, rfl, near, even⟩
  cases isOwn.unique isGrid
  have same : mantissa = count := le_antisymm (isNearest.le ⟨near, even⟩)
    (IsNearest.le ⟨near, even⟩ isNearest)
  rw [same]

theorem Rounds.unique (rounds : Rounds format value number) {other : ℚ}
    (others : Rounds format value other) : number = other := by
  rcases others with ⟨grid, count, isGrid, rfl, near, even⟩
  exact rounds.eq_of_isNearest isGrid ⟨near, even⟩

theorem Rounds.near_of_lt (rounds : Rounds format value number) {bound : Int}
    (least : format.minExponent ≤ bound) (lt : |value| < 2 ^ (bound + format.mantissaBits)) :
    |value - number| ≤ 2 ^ bound / 2 := by
  rcases rounds with ⟨grid, mantissa, isGrid, rfl, near, -⟩
  have power := two_zpow_le.mpr (isGrid.le_of_lt least lt)
  linarith

theorem Rounds.lt_ceiling (rounds : Rounds format value number) (wide : IsWide format)
    (lt : |value| < threshold format) : |number| < ceiling format := by
  have near := rounds.near_of_lt wide.ceiling.le (lt.trans (threshold_lt_ceiling format))
  have far := abs_sub_abs_le_abs_sub number value
  rw [abs_sub_comm] at far
  rw [threshold] at lt
  linarith

theorem half_ceiling_le_greatest (format : Format) :
    (2 : ℚ) ^ (greatestGrid format + format.mantissaBits - 1) ≤ greatest format := by
  have positive := mantissaBits_pos format
  have whole := two_zpow_pred (greatestGrid format + format.mantissaBits)
  have part : (2 : ℚ) ^ greatestGrid format ≤
      2 ^ (greatestGrid format + format.mantissaBits - 1) := two_zpow_le.mpr (by omega)
  rw [greatest, ceiling, ← whole]
  linarith

theorem half_ceiling_le (format : Format) :
    (2 : ℚ) ^ (greatestGrid format + format.mantissaBits - 1) ≤ threshold format :=
  (half_ceiling_le_greatest format).trans (greatest_lt_threshold format).le

theorem one_lt_threshold (wide : IsWide format) : 1 < threshold format := by
  have greatest := wide.greatest
  have positive := mantissaBits_pos format
  refine lt_of_lt_of_le ?_ (half_ceiling_le format)
  rw [← zpow_zero 2]
  exact two_zpow_lt.mpr (by omega)

theorem not_even_greatest {mantissa : Int}
    (same : (mantissa : ℚ) * 2 ^ greatestGrid format = greatest format) : ¬Even mantissa := by
  rw [greatest] at same
  have next : mantissa + 1 = 2 ^ format.mantissaBits := by
    have counts : ((mantissa : ℚ) + 1) * 2 ^ greatestGrid format =
        ((2 ^ format.mantissaBits : Int) : ℚ) * 2 ^ greatestGrid format := by
      rw [← ceiling_eq]
      linarith
    exact_mod_cast mul_right_cancel₀ (two_zpow_pos (greatestGrid format)).ne' counts
  have power : Even ((2 : Int) ^ format.mantissaBits) :=
    even_two.pow_of_ne_zero (by have := mantissaBits_pos format; omega)
  rwa [← next, Int.even_add_one] at power

/-- The middle is rounded up, since the greatest number is odd. -/
theorem Rounds.ceiling_le (rounds : Rounds format value number) (wide : IsWide format)
    (le : threshold format ≤ value) : ceiling format ≤ number := by
  by_cases beyond : ceiling format ≤ value
  · exact rounds.le_of_ge (isNumber_ceiling wide) beyond
  · have nonneg : 0 ≤ value := (two_zpow_pos _).le.trans ((half_ceiling_le format).trans le)
    rcases rounds with ⟨grid, mantissa, isGrid, rfl, near, even⟩
    have same : grid = greatestGrid format := by
      rw [not_le, ← abs_of_nonneg nonneg] at beyond
      rw [← abs_of_nonneg nonneg] at le
      exact isGrid.eq_of_bounds wide.ceiling.le ((half_ceiling_le format).trans le) beyond
    subst same
    have whole := ceiling_eq format
    by_contra less
    rw [not_le, whole] at less
    have step := multiple_step (greatestGrid format) (multiple_lt.mp less)
    rw [threshold, whole] at le
    have exactly : value - mantissa * 2 ^ greatestGrid format = 2 ^ greatestGrid format / 2 :=
      le_antisymm (abs_le.mp near).2 (by linarith)
    have last : (mantissa : ℚ) * 2 ^ greatestGrid format = greatest format := by
      rw [greatest]
      linarith
    refine not_even_greatest last (even ?_)
    rw [exactly, abs_of_pos (half_pos (two_zpow_pos _))]

theorem Rounds.lt_ceiling_iff (rounds : Rounds format value number) (wide : IsWide format) :
    |number| < ceiling format ↔ |value| < threshold format := by
  refine ⟨fun less => ?_, rounds.lt_ceiling wide⟩
  by_contra beyond
  rcases le_abs.mp (not_lt.mp beyond) with above | below
  · exact absurd less (not_lt.mpr ((rounds.ceiling_le wide above).trans (le_abs_self _)))
  · exact absurd less (not_lt.mpr ((rounds.neg.ceiling_le wide below).trans (neg_le_abs _)))

theorem IsNumber.le_greatest (isNumber : IsNumber format number) (less : number < ceiling format) :
    number ≤ greatest format := by
  rcases isNumber with ⟨mantissa, exponent, rfl, short, least⟩
  by_cases coarse : greatestGrid format ≤ exponent
  · rcases multiple_of_le coarse mantissa with ⟨count, same⟩
    rw [same, ceiling_eq] at less
    have step := multiple_step (greatestGrid format) (multiple_lt.mp less)
    rw [same, greatest, ceiling_eq]
    linarith
  · have bound := (abs_le.mp (IsNumber.abs_le_edge short (not_le.mp coarse))).2
    exact bound.trans (half_ceiling_le_greatest format)

/-! ## Products -/

theorem two_zpow_scaled (format : Format) (scale : Int) :
    (2 : ℚ) ^ (scale + format.mantissaBits) = 2 ^ format.mantissaBits * 2 ^ scale := by
  rw [two_zpow_add, zpow_natCast, mul_comm]

theorem two_pow_pred (format : Format) :
    2 * (2 : Int) ^ (format.mantissaBits - 1) = 2 ^ format.mantissaBits := by
  have positive := mantissaBits_pos format
  rw [← pow_succ']
  congr 1
  omega

theorem Rounds.le_of_lt_middle (rounds : Rounds format value number) {count scale : Int}
    (least : format.minExponent ≤ scale) (long : 2 ^ (format.mantissaBits - 1) ≤ count)
    (short : count < 2 ^ format.mantissaBits) (lt : value < count * 2 ^ scale + 2 ^ scale / 2) :
    number ≤ count * 2 ^ scale := by
  have positive : (0 : Int) < 2 ^ (format.mantissaBits - 1) := by positivity
  by_cases low : value ≤ count * 2 ^ scale
  · exact rounds.le_of_le (isNumber_of_le (by omega) short.le least) low
  · rcases rounds with ⟨grid, mantissa, isGrid, rfl, near, -⟩
    have unit := two_zpow_pos scale
    have edge : (2 : ℚ) ^ (scale + format.mantissaBits - 1) ≤ count * 2 ^ scale := by
      rw [edge_eq]
      exact mul_le_mul_of_nonneg_right (by exact_mod_cast long) unit.le
    have next : ((count : ℚ) + 1) * 2 ^ scale ≤ 2 ^ (scale + format.mantissaBits) := by
      rw [two_zpow_scaled]
      exact mul_le_mul_of_nonneg_right (by exact_mod_cast short) unit.le
    have nonneg : 0 ≤ value := (two_zpow_pos _).le.trans (edge.trans (not_le.mp low).le)
    have same : grid = scale := by
      refine isGrid.eq_of_bounds least ?_ ?_ <;> rw [abs_of_nonneg nonneg] <;> linarith
    subst same
    by_contra beyond
    have step := multiple_step grid (multiple_lt.mp (not_le.mp beyond))
    have far := (abs_le.mp near).1
    linarith

/-- A product with the greatest mantissa is not rounded up, since the grid is narrower than
the distance to the next power of two. -/
theorem Rounds.le_of_scaled (rounds : Rounds format value number) {count scale : Int}
    (short : count < 2 ^ format.mantissaBits) (long : 2 ^ (format.mantissaBits - 1) ≤ count)
    (least : format.minExponent ≤ scale)
    (le : value ≤ (2 ^ format.mantissaBits - 1) * count * 2 ^ scale) :
    number ≤ (2 ^ format.mantissaBits - 1) * count * 2 ^ scale := by
  have unit := two_zpow_pos scale
  have bits := mantissaBits_pos format
  have half : (0 : Int) < 2 ^ (format.mantissaBits - 1) := by positivity
  have halves := two_pow_pred format
  rcases eq_or_lt_of_le long with edge | inner
  · have isNumber : IsNumber format (((2 ^ format.mantissaBits - 1 : Int) : ℚ) *
        2 ^ (scale + format.mantissaBits - 1)) := isNumber_of_le (by omega) (by omega) (by omega)
    have same : ((2 ^ format.mantissaBits - 1 : Int) : ℚ) *
        2 ^ (scale + format.mantissaBits - 1) =
          (2 ^ format.mantissaBits - 1) * count * 2 ^ scale := by
      rw [edge_eq, edge]
      push_cast
      ring
    rw [← same] at le ⊢
    exact rounds.le_of_le isNumber le
  · have shortCast : (count : ℚ) ≤ 2 ^ format.mantissaBits := by exact_mod_cast short.le
    have innerCast : (2 : ℚ) ^ format.mantissaBits < 2 * count := by
      have doubled : (2 : Int) ^ format.mantissaBits < 2 * count := by omega
      exact_mod_cast doubled
    have lost := mul_le_mul_of_nonneg_right shortCast unit.le
    have twice := mul_lt_mul_of_pos_right innerCast unit
    have top : (2 ^ format.mantissaBits - 1) * (count : ℚ) * 2 ^ scale =
        count * 2 ^ (scale + format.mantissaBits) - count * 2 ^ scale := by
      rw [two_zpow_scaled]
      ring
    rw [← two_zpow_scaled] at lost twice
    rw [top] at le ⊢
    have below := rounds.le_of_lt_middle (by omega)
      (show 2 ^ (format.mantissaBits - 1) ≤ count - 1 by omega) (by omega)
      (show value < ((count - 1 : Int) : ℚ) * 2 ^ (scale + format.mantissaBits) +
        2 ^ (scale + format.mantissaBits) / 2 by
          push_cast
          linarith)
    push_cast at below
    linarith

/-! ## Near one -/

theorem isNumber_one (wide : IsWide format) : IsNumber format 1 := by
  have least := wide.least
  have positive := mantissaBits_pos format
  have short : (1 : Int) ≤ 2 ^ format.mantissaBits := by exact_mod_cast Nat.one_le_two_pow
  have number : IsNumber format (((1 : Int) : ℚ) * 2 ^ (0 : Int)) :=
    isNumber_of_le (by decide) short (by omega)
  simpa using number

theorem Rounds.near_of_le_one (rounds : Rounds format value number) (wide : IsWide format)
    (nonneg : 0 ≤ value) (le : value ≤ 1) :
    |value - number| ≤ 2 ^ (-(format.mantissaBits : Int)) / 2 := by
  rcases eq_or_lt_of_le le with rfl | less
  · rw [rounds.eq_of_isNumber (isNumber_one wide), sub_self, abs_zero]
    exact (half_pos (two_zpow_pos _)).le
  · refine rounds.near_of_lt wide.least ?_
    rwa [abs_of_nonneg nonneg, neg_add_cancel, zpow_zero]

/-! ## Back and forth -/

theorem Rounds.isNumber (rounds : Rounds format value number) : IsNumber format number := by
  rcases id rounds with ⟨grid, mantissa, isGrid, same, -⟩
  have edge : IsNumber format (2 ^ (grid + format.mantissaBits)) := by
    have power : IsNumber format (((2 ^ format.mantissaBits : Int) : ℚ) * 2 ^ grid) :=
      isNumber_of_le (by positivity) le_rfl isGrid.least
    rw [two_zpow_scaled]
    exact_mod_cast power
  have below := abs_lt.mp isGrid.below
  have bound : |(mantissa : ℚ) * 2 ^ grid| ≤ 2 ^ (grid + format.mantissaBits) := by
    rw [← same]
    exact abs_le.mpr ⟨rounds.le_of_ge edge.neg below.1.le, rounds.le_of_le edge below.2.le⟩
  refine ⟨mantissa, grid, same, ?_, isGrid.least⟩
  rw [abs_mul, abs_of_pos (two_zpow_pos grid), add_comm, two_zpow_add] at bound
  exact le_of_mul_le_mul_right bound (two_zpow_pos grid)

theorem IsNumber.multiple_of_edge_le {grid : Int} (isNumber : IsNumber format number)
    (beyond : 2 ^ (grid + format.mantissaBits - 1) ≤ number) :
    ∃ count : Int, number = count * 2 ^ grid := by
  rcases isNumber with ⟨mantissa, exponent, rfl, short, least⟩
  by_cases coarse : grid ≤ exponent
  · exact multiple_of_le coarse mantissa
  · have bound := (abs_le.mp (IsNumber.abs_le_edge short (not_le.mp coarse))).2
    exact ⟨_, (le_antisymm bound beyond).trans (edge_eq format grid)⟩

/-- The greatest number is odd, so the middle below it is not rounded up to it. -/
theorem Rounds.ne_of_greatest (rounds : Rounds format value (greatest format))
    (wide : IsWide format) : value ≠ greatest format - 2 ^ greatestGrid format / 2 := by
  rintro rfl
  rcases rounds with ⟨grid, mantissa, isGrid, same, near, even⟩
  have unit := half_pos (two_zpow_pos (greatestGrid format))
  have apart : |greatest format - 2 ^ greatestGrid format / 2 - greatest format| =
      2 ^ greatestGrid format / 2 := by
    rw [sub_sub_cancel_left, abs_neg, abs_of_pos unit]
  rw [apart] at near even
  have atLeast : greatestGrid format ≤ grid := two_zpow_le.mp (by linarith)
  have atMost : grid ≤ greatestGrid format := by
    refine isGrid.le_of_lt wide.ceiling.le ?_
    have positive := mantissaBits_pos format
    have part : (2 : ℚ) ^ greatestGrid format ≤
        2 ^ (greatestGrid format + format.mantissaBits - 1) := two_zpow_le.mpr (by omega)
    have half := half_ceiling_le_greatest format
    have less := (greatest_lt_threshold format).trans (threshold_lt_ceiling format)
    rw [abs_of_pos (by linarith), ← ceiling]
    linarith
  rw [le_antisymm atMost atLeast] at same even
  exact not_even_greatest same.symm (even rfl)

/-- A source and the rounded width to a target reach the middle together only if the target is
the greatest number and the width was rounded up by half a step. -/
theorem IsGrid.measured {source target : ℚ} {grid mantissa : Int} (wide : IsWide format)
    (isGrid : IsGrid format (target - source) grid)
    (near : |target - source - mantissa * 2 ^ grid| ≤ 2 ^ grid / 2)
    (targetMost : target ≤ greatest format) (widthMost : mantissa * 2 ^ grid ≤ greatest format)
    (ahead : source < target)
    (beyond : threshold format ≤ source + mantissa * 2 ^ grid) :
    grid = greatestGrid format ∧ target = greatest format ∧
      source + mantissa * 2 ^ grid = threshold format := by
  have unit := two_zpow_pos (greatestGrid format)
  have up := (abs_le.mp near).1
  have middle := threshold_eq format
  have atMost : grid ≤ greatestGrid format := by
    refine isGrid.le_of_lt wide.ceiling.le ?_
    rw [abs_of_pos (sub_pos.mpr ahead), ← ceiling]
    have less := threshold_lt_ceiling format
    linarith
  have atLeast : greatestGrid format ≤ grid := by
    by_contra finer
    have half : 2 * (2 : ℚ) ^ grid ≤ 2 ^ greatestGrid format := by
      rw [← two_zpow_succ]
      exact two_zpow_le.mpr (by omega)
    linarith
  cases le_antisymm atMost atLeast
  exact ⟨rfl, le_antisymm targetMost (by linarith), le_antisymm (by linarith) beyond⟩

/-- A value that is measured from a source to a rounded sum does not overflow when it is
added to the source again. -/
theorem lt_threshold_of_measured (wide : IsWide format) {source step target width : ℚ}
    (sourceNumber : IsNumber format source) (sourceLess : source < ceiling format)
    (stepNumber : IsNumber format step) (reached : Rounds format (source + step) target)
    (targetLess : |target| < ceiling format) (measured : Rounds format (target - source) width)
    (widthLess : width < ceiling format) : source + width < threshold format := by
  by_contra beyond
  rw [not_lt] at beyond
  have sourceMost := sourceNumber.le_greatest sourceLess
  have widthMost := measured.isNumber.le_greatest widthLess
  have targetMost := reached.isNumber.le_greatest (abs_lt.mp targetLess).2
  have most := greatest_lt_threshold format
  have ahead : source < target := by
    by_contra behind
    have back := measured.le_of_le (isNumber_zero format) (by linarith)
    linarith
  rcases measured with ⟨grid, mantissa, isGrid, rfl, near, -⟩
  rcases isGrid.measured wide near targetMost widthMost ahead beyond with
    ⟨rfl, rfl, same⟩
  have unit := two_zpow_pos (greatestGrid format)
  have middle := threshold_eq format
  have long : 2 ^ (greatestGrid format + format.mantissaBits - 1) ≤
      ((mantissa - 1 : Int) : ℚ) * 2 ^ greatestGrid format := by
    have inside := isGrid.above wide.ceiling
    rw [abs_of_pos (sub_pos.mpr ahead), edge_eq] at inside
    rw [edge_eq]
    have less : ((2 ^ (format.mantissaBits - 1) : Int) : ℚ) * 2 ^ greatestGrid format <
        mantissa * 2 ^ greatestGrid format := by linarith
    have next := multiple_step (greatestGrid format) (multiple_lt.mp less)
    push_cast at next ⊢
    linarith
  -- The step is a multiple of the grid as well, and no multiple leads to the greatest number.
  have less := (reached.lt_ceiling_iff wide).mp targetLess
  have close := abs_le.mp (reached.near_of_lt wide.ceiling.le
    (less.trans (threshold_lt_ceiling format)))
  have short := (abs_lt.mp less).2
  push_cast at long
  rcases stepNumber.multiple_of_edge_le (by linarith) with ⟨count, rfl⟩
  rcases lt_trichotomy count mantissa with below | rfl | above
  · have step := multiple_step (greatestGrid format) below
    exact reached.ne_of_greatest wide (by linarith)
  · linarith
  · have step := multiple_step (greatestGrid format) above
    linarith

end Number

end SpriteScript
