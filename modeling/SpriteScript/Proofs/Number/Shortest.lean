import Mathlib.Tactic.Ring
import SpriteScript.Number.Shortest

namespace SpriteScript

/-! Seventeen digits are enough. On the grid with seventeen digits two points are nearer to each
other than the ends of the interval around a mantissa of 53 bits, so one of them is inside; and
no grid of the search is so coarse that the value is below its first point. -/

namespace Shortest

namespace Interval

def scale (interval : Interval) (power : Int) : Nat :=
  interval.numerator * Nat.pow 10 (-power).toNat

def spacing (interval : Interval) (power : Int) : Nat :=
  interval.denominator * Nat.pow 10 power.toNat

def Reaches (interval : Interval) (power : Int) (more : Nat) : Prop :=
  interval.spacing power * 10 ^ more ≤ interval.value * interval.scale power

structure IsWide (interval : Interval) : Prop where
  numerator_pos : 0 < interval.numerator
  denominator_pos : 0 < interval.denominator
  value_pos : 0 < interval.value
  lt_width : interval.value < (interval.high - interval.low) * 10 ^ 16

theorem IsWide.scale_pos {interval : Interval} (wide : interval.IsWide) (power : Int) :
    0 < interval.scale power :=
  Nat.mul_pos wide.numerator_pos (Nat.pow_pos (by decide))

theorem IsWide.spacing_pos {interval : Interval} (wide : interval.IsWide) (power : Int) :
    0 < interval.spacing power :=
  Nat.mul_pos wide.denominator_pos (Nat.pow_pos (by decide))

variable {interval : Interval} {power : Int} {more : Nat}

theorem Reaches.weaken (reaches : interval.Reaches power more) : interval.Reaches power 0 := by
  refine Nat.le_trans (Nat.mul_le_mul_left _ ?_) reaches
  exact Nat.pow_le_pow_right (by decide) (Nat.zero_le more)

theorem Reaches.finer (reaches : interval.Reaches power more) :
    interval.Reaches (power - 1) (more + 1) := by
  rw [Reaches, spacing, scale, Nat.pow_eq, Nat.pow_eq] at reaches ⊢
  rcases Int.lt_or_le 0 power with positive | negative
  · have whole : power.toNat = (power - 1).toNat + 1 := by omega
    have fraction : (-power).toNat = 0 ∧ (-(power - 1)).toNat = 0 := by omega
    rw [whole, fraction.1] at reaches
    rw [fraction.2]
    calc _ = interval.denominator * 10 ^ ((power - 1).toNat + 1) * 10 ^ more := by ring
      _ ≤ _ := reaches
  · have whole : power.toNat = 0 ∧ (power - 1).toNat = 0 := by omega
    have fraction : (-(power - 1)).toNat = (-power).toNat + 1 := by omega
    rw [whole.1] at reaches
    rw [whole.2, fraction]
    calc _ = 10 * (interval.denominator * 10 ^ 0 * 10 ^ more) := by ring
      _ ≤ 10 * (interval.value * (interval.numerator * 10 ^ (-power).toNat)) :=
        Nat.mul_le_mul_left 10 reaches
      _ = _ := by ring

theorem lt_pow_toDigits (number : Nat) : number < 10 ^ (Nat.toDigits 10 number).length :=
  (Nat.length_toDigits_le_iff (by decide) Nat.length_toDigits_pos).mp (Nat.le_refl _)

theorem pow_toDigits_le {number : Nat} (positive : 0 < number) :
    10 ^ ((Nat.toDigits 10 number).length - 1) ≤ number := by
  rcases Nat.eq_zero_or_pos ((Nat.toDigits 10 number).length - 1) with none | some
  · rw [none]
    exact positive
  · by_contra below
    have fewer := (Nat.length_toDigits_le_iff (by decide) some).mpr (Nat.lt_of_not_le below)
    omega

theorem IsWide.reaches_magnitude (wide : interval.IsWide) :
    interval.Reaches interval.magnitude 0 := by
  have positive := Nat.mul_pos wide.value_pos wide.numerator_pos
  rw [Reaches, spacing, scale, Nat.pow_eq, Nat.pow_eq, Nat.pow_zero, Nat.mul_one, magnitude]
  split
  · next above =>
      let quotient := interval.value * interval.numerator / interval.denominator
      let count := (Nat.toDigits 10 quotient).length
      have counted : 0 < count := Nat.length_toDigits_pos
      have powers : ((count : Int) - 1).toNat = count - 1 ∧ (-((count : Int) - 1)).toNat = 0 := by
        omega
      have reached : 10 ^ (count - 1) ≤ quotient :=
        pow_toDigits_le (Nat.div_pos above wide.denominator_pos)
      rw [powers.1, powers.2]
      calc interval.denominator * 10 ^ (count - 1) ≤ interval.denominator * quotient :=
            Nat.mul_le_mul_left _ reached
        _ ≤ interval.value * interval.numerator := Nat.mul_div_le _ _
        _ = interval.value * (interval.numerator * 10 ^ 0) := by ring
  · next below =>
      let quotient := (interval.denominator - 1) / (interval.value * interval.numerator)
      let count := (Nat.toDigits 10 quotient).length
      have powers : (-(count : Int)).toNat = 0 ∧ (- -(count : Int)).toNat = count := by
        omega
      have short : quotient < 10 ^ count := lt_pow_toDigits quotient
      have reached := (Nat.div_lt_iff_lt_mul positive).mp short
      rw [powers.1, powers.2]
      calc interval.denominator * 10 ^ 0 ≤ 10 ^ count * (interval.value * interval.numerator) := by
            omega
        _ = interval.value * (interval.numerator * 10 ^ count) := by ring

theorem IsWide.neighbour?_pos (wide : interval.IsWide) {tie : Tie} {point : Nat}
    (reaches : interval.Reaches power 0) (found : interval.neighbour? tie power = some point) :
    0 < point := by
  have below : 0 < interval.value * interval.scale power / interval.spacing power := by
    refine Nat.div_pos ?_ (wide.spacing_pos power)
    simpa [Reaches] using reaches
  have rounded (remainder divisor : Nat) :
      interval.value * interval.scale power / interval.spacing power ≤
        tie.round (interval.value * interval.scale power / interval.spacing power) remainder
          divisor := by
    unfold Tie.round
    split
    · exact Nat.le_refl _
    · exact Nat.le_succ _
    · cases tie with
      | upward => exact Nat.le_succ _
      | even => exact Nat.le_add_right _ _
  rw [neighbour?] at found
  dsimp only at found
  split at found
  · cases found
    exact Nat.lt_of_lt_of_le below (rounded _ _)
  · cases found
    exact below
  · cases found
    exact Nat.succ_pos _
  · cases found

/-- Where the points of a grid are nearer to each other than the ends of the interval, one of
the two neighbours is inside. -/
theorem neighbour?_isSome (tie : Tie)
    (narrower : interval.spacing power < (interval.high - interval.low) * interval.scale power) :
    (interval.neighbour? tie power).isSome := by
  let below := interval.value * interval.scale power / interval.spacing power
  have next : (below + 1) * interval.spacing power =
      below * interval.spacing power + interval.spacing power := Nat.succ_mul _ _
  rw [Nat.sub_mul] at narrower
  rw [neighbour?]
  dsimp only
  split
  · rfl
  · rfl
  · rfl
  · next under beyond =>
      -- Both ends of the interval would be between the two neighbours.
      have under := (Bool.or_eq_false_iff.mp under).2
      have apart : below * interval.spacing power ≤ interval.low * interval.scale power ∧
          interval.high * interval.scale power ≤ (below + 1) * interval.spacing power := by
        cases closed : interval.closed with
        | false =>
            simp only [closed, Bool.false_eq_true, if_false, decide_eq_false_iff_not]
              at under beyond
            exact ⟨Nat.le_of_not_lt under, Nat.le_of_not_lt beyond⟩
        | true =>
            simp only [closed, if_true, decide_eq_false_iff_not] at under beyond
            exact ⟨Nat.le_of_lt (Nat.lt_of_not_le under), Nat.le_of_lt (Nat.lt_of_not_le beyond)⟩
      omega

theorem IsWide.spacing_lt (wide : interval.IsWide) (reaches : interval.Reaches power 16) :
    interval.spacing power < (interval.high - interval.low) * interval.scale power := by
  have scaled := Nat.mul_lt_mul_of_pos_right wide.lt_width (wide.scale_pos power)
  have less := Nat.lt_of_le_of_lt reaches scaled
  refine Nat.lt_of_mul_lt_mul_right (a := 10 ^ 16) (Nat.lt_of_lt_of_eq less ?_)
  ring

theorem IsWide.search_pos (wide : interval.IsWide) {tie : Tie} {fuel : Nat}
    (enough : more + fuel = 17) (started : 0 < fuel) (reaches : interval.Reaches power more) :
    0 < (interval.search tie fuel power).digits := by
  induction fuel generalizing power more with
  | zero => exact absurd started (Nat.lt_irrefl 0)
  | succ fuel induction =>
      rw [search]
      split
      · next none =>
          rcases Nat.eq_zero_or_pos fuel with last | later
          · have finest : more = 16 := by omega
            have found := neighbour?_isSome tie (wide.spacing_lt (finest ▸ reaches))
            rw [none] at found
            cases found
          · exact induction (by omega) later reaches.finer
      · next point found =>
          have positive := wide.neighbour?_pos reaches.weaken found
          split
          · dsimp only
            omega
          · exact positive

theorem around_isWide {mantissa : Nat} (positive : 0 < mantissa) (small : mantissa < 2 ^ 53)
    (exponent : Int) {narrowBelow : Bool} (narrow : narrowBelow = true → mantissa ≤ 2 ^ 52) :
    (around mantissa exponent narrowBelow).IsWide where
  numerator_pos := Nat.pow_pos (by decide)
  denominator_pos := Nat.pow_pos (by decide)
  value_pos := Nat.mul_pos (by decide) positive
  lt_width := by
    cases narrowBelow with
    | false =>
        dsimp only [around]
        simp only [Bool.false_eq_true, if_false]
        omega
    | true =>
        have less := narrow rfl
        dsimp only [around]
        simp only [if_true]
        omega

end Interval

theorem decimal_pos (tie : Tie) {mantissa : Nat} (positive : 0 < mantissa)
    (small : mantissa < 2 ^ 53) (exponent : Int) {narrowBelow : Bool}
    (narrow : narrowBelow = true → mantissa ≤ 2 ^ 52) :
    0 < (decimal tie mantissa exponent narrowBelow).digits := by
  have wide := Interval.around_isWide positive small exponent narrow
  exact wide.search_pos (Nat.zero_add _) (by decide) wide.reaches_magnitude

end Shortest

end SpriteScript
