import SpriteScript.Proofs.Json.Number
import SpriteScript.Proofs.Json.Written
import SpriteScript.Proofs.Number.Steady

namespace SpriteScript

/-! Numbers that come back from their text. All finite numbers of single width do, although they
are read in double width and rounded three times; of double width all are accepted, but some are
read as a neighbour. -/

open Number
open Float.Model (UnpackedFloat)
open Shortest (IsClose IsSteady Interval)

namespace Layout

variable {numeral : Numeral} {decimal : Decimal} {digits : Nat}

theorem IsWritten.value_eq (written : IsWritten numeral decimal digits) :
    (numeral.total * 10 ^ numeral.scale : ℚ) = decimal.digits * 10 ^ decimal.exponent := by
  rcases written.parts with ⟨total, scale⟩ | ⟨total, scale, whole, -⟩
  · rw [total, scale]
  · have power : (10 : ℚ) ^ decimal.exponent = 10 ^ decimal.exponent.toNat := by
      rw [← zpow_natCast, Int.toNat_of_nonneg whole]
    rw [total, scale, power]
    push_cast
    rw [zpow_neg_one, pow_succ]
    field_simp

theorem IsWritten.total_pos (written : IsWritten numeral decimal digits)
    (positive : 0 < decimal.digits) :
    0 < numeral.total := by
  rcases written.parts with ⟨total, -⟩ | ⟨total, -⟩
  · rwa [total]
  · rw [total]
    positivity

end Layout

namespace Quantity

variable {numeral : Numeral} {decimal : Decimal} {interval : Interval}

theorem ofNumeral?_of_steady (steady : IsSteady interval decimal)
    (written : Layout.IsWritten numeral decimal 13) :
    ∃ scaled : Float, ofNumeral? numeral =
        some (.real (if numeral.negative then -scaled else scaled)) ∧
      IsFinite scaled ∧ interval.Holds (value scaled) := by
  have short := steady.short
  have least := steady.least
  have greatest := steady.greatest
  have small : numeral.total ≤ 2 ^ 53 ∧ -60 ≤ numeral.scale ∧ numeral.scale ≤ 60 ∧
      (numeral.scale.natAbs ≤ 22 ∨ numeral.scale = decimal.exponent) := by
    rcases written.parts with ⟨total, scale⟩ | ⟨total, scale, whole, less⟩
    · omega
    · exact ⟨less.le.trans (by decide), by omega⟩
  have bounds : -200 ≤ numeral.scale ∧ numeral.scale ≤ 200 := by omega
  rcases scale?_near (written.total_pos steady.positive) small.1 bounds.1 bounds.2 with
    ⟨scaled, read, finite, apart, rounds⟩
  rw [written.value_eq] at apart rounds
  refine ⟨scaled, ?_, finite, steady.holds ⟨apart⟩ fun simple => rounds (by omega)⟩
  have fits := lt_of_le_of_lt small.1 (show 2 ^ 53 < wordLimit by decide)
  rw [ofNumeral?_of_isMarked written.marked fits, read, Option.map_some]

end Quantity

namespace Json

/-! ## Single width -/

variable {sign : UnpackedFloat.Sign} {mantissa : Nat} {exponent : Int} {positive : 0 < mantissa}

theorem single_of_unpacked {number : Float32}
    (unpacked : Binary.unpacked number = .finite sign mantissa exponent positive) :
    single number = .number (Layout.singleData.place (sign == .negative)
      (Shortest.decimal .even mantissa exponent
        (Binary.narrowBelow .binary32 mantissa exponent))) := by
  rw [single, Layout.numeral?, unpacked]
  rfl

theorem single_of_holds {number : Float32}
    (unpacked : Binary.unpacked number = .finite sign mantissa exponent positive)
    {scaled : Float} (finite : IsFinite scaled)
    (holds : (Interval.around mantissa exponent
      (Binary.narrowBelow .binary32 mantissa exponent)).Holds (value scaled)) :
    Number.single (if sign == .negative then -scaled else scaled) = number := by
  have numberFinite : IsFinite number := by
    rw [IsFinite, unpacked]
    rfl
  have canonical := numberFinite.canonical
  rw [unpacked] at canonical
  have rounds := holds.rounds canonical
  have nonzero : (mantissa * 2 ^ exponent : ℚ) ≠ 0 := by positivity
  have negated := unpacked_neg finite
  cases sign with
  | positive =>
      have same : value number = mantissa * 2 ^ exponent := by
        rw [value, unpacked, valueOf_positive]
      rw [← same] at rounds nonzero
      exact single_eq_of_rounds finite numberFinite nonzero rounds
  | negative =>
      have same : value number = -(mantissa * 2 ^ exponent) := by
        rw [value, unpacked, valueOf_negative]
      have negatedFinite : IsFinite (-scaled) := by
        rw [IsFinite, negated]
        exact finite.canonical.neg.isFinite
      have negatedValue : value (-scaled) = -value scaled := by
        rw [value, negated, valueOf_neg, value]
      replace rounds := rounds.neg
      rw [← same, ← negatedValue] at rounds
      rw [← neg_ne_zero, ← same] at nonzero
      exact single_eq_of_rounds negatedFinite numberFinite nonzero rounds

theorem single_reads_of_unpacked (other : Float32) {number : Float32} (finite : IsFinite number)
    (same : Binary.unpacked number = Binary.unpacked other)
    (reads : (single other).asSingle? = some other) : (single number).asSingle? = some number := by
  rw [single_eq_of_unpacked finite same]
  exact reads

theorem single_reads_exceptional {number : Float32} (finite : IsFinite number)
    (unpacked : Binary.unpacked number = .finite sign mantissa exponent positive)
    (exceptional : Shortest.IsExceptional mantissa exponent) :
    (single number).asSingle? = some number := by
  rcases exceptional with ⟨rfl, rfl | rfl⟩ <;> cases sign
  · exact single_reads_of_unpacked (.ofBits 0x95ae43fd) finite unpacked (by decide +kernel)
  · exact single_reads_of_unpacked (.ofBits 0x15ae43fd) finite unpacked (by decide +kernel)
  · exact single_reads_of_unpacked (.ofBits 0x95ae43fe) finite unpacked (by decide +kernel)
  · exact single_reads_of_unpacked (.ofBits 0x15ae43fe) finite unpacked (by decide +kernel)

/-- Every finite number of single width is read again from its text. -/
theorem singleReadsBack_of_finite {number : Float32} (finite : number.isFinite = true) :
    SingleReadsBack number := by
  rw [singleReadsBack_iff]
  replace finite : IsFinite number := finite
  have canonical := finite.canonical
  have less := abs_value_lt number
  cases unpacked : Binary.unpacked number with
  | zero sign =>
      cases sign with
      | positive => exact single_reads_of_unpacked 0.0 finite unpacked (by decide +kernel)
      | negative =>
          exact single_reads_of_unpacked (.ofBits 0x80000000) finite unpacked (by decide +kernel)
  | finite sign mantissa exponent positive =>
      by_cases exceptional : Shortest.IsExceptional mantissa exponent
      · exact single_reads_exceptional finite unpacked exceptional
      rw [value, unpacked] at less
      rw [unpacked] at canonical
      have greatest := (canonical.lt_ceiling_iff (wide (α := Float32))).mp less
      have steady := Shortest.isSteady canonical greatest exceptional
      rcases Quantity.ofNumeral?_of_steady steady
        (Layout.place_isWritten_single _ (sign == .negative)) with
        ⟨scaled, read, scaledFinite, holds⟩
      rw [asSingle?, single_of_unpacked unpacked, asQuantity?, read, Option.map_some,
        Layout.negative_place, Quantity.toSingle, single_of_holds unpacked scaledFinite holds]
  | infinity | notANumber =>
      rw [unpacked] at canonical
      cases canonical

theorem asSingle?_of_finite {number : Float32} (finite : number.isFinite = true) :
    (single number).asSingle? = some number :=
  singleReadsBack_iff.mp (singleReadsBack_of_finite finite)

/-! ## Double width -/

section

variable {decimal : Decimal} {grid : Int} {point : Nat} {narrow : Bool}

/-! At the power whose factor is rounded up there are fewer digits than would overflow. -/

theorem point_le_of_power (atMost : exponent ≤ 971) (power : mantissa = 2 ^ 52)
    (found : (Interval.around mantissa exponent narrow).IsFound decimal 292 point) :
    point ≤ 17976931348623157 := by
  have high := found.isNear.le_high
  have step : (2 : ℚ) ^ exponent ≤ 2 ^ (971 : Int) := two_zpow_le.mpr atMost
  rw [Interval.high_around, power] at high
  have bound : (2 * (point * 10 ^ 292) : ℚ) ≤ (2 ^ 53 + 1) * 2 ^ 971 := by
    rw [Nat.cast_pow, Nat.cast_ofNat, zpow_ofNat] at high
    rw [zpow_ofNat] at step
    generalize (10 : ℚ) ^ 292 = ten at high ⊢
    generalize (2 : ℚ) ^ 971 = large at step ⊢
    linarith
  have below : 2 * (point * 10 ^ 292) ≤ (2 ^ 53 + 1) * 2 ^ 971 := by
    rw [← Nat.cast_le (α := ℚ)]
    simpa only [Nat.cast_mul, Nat.cast_pow, Nat.cast_add, Nat.cast_ofNat, Nat.cast_one]
  have closed : (2 ^ 53 + 1) * 2 ^ 971 < 2 * ((17976931348623157 + 1) * 10 ^ 292) := by
    decide +kernel
  by_contra more
  have scaled := Nat.mul_le_mul_right (10 ^ 292) (Nat.lt_of_not_le more)
  omega

theorem point_le_of_even (some : 0 < mantissa)
    (le : (mantissa * 2 ^ exponent : ℚ) ≤ 2 ^ 1024 - 2 ^ 971)
    (found : (Interval.around mantissa exponent false).IsFound decimal 292 point) :
    point ≤ 17976931348623157 := by
  have above := (abs_le.mp (found.isNear.nearest_around some)).2
  have bound : (2 * (point * 10 ^ 292) + 2 * 2 ^ 971 : ℚ) ≤ 2 * 2 ^ 1024 + 10 ^ 292 := by
    rw [zpow_ofNat] at above
    generalize (2 : ℚ) ^ 1024 = ceiling at le ⊢
    generalize (2 : ℚ) ^ 971 = last at le ⊢
    generalize (10 : ℚ) ^ 292 = ten at above ⊢
    linarith
  have below : 2 * (point * 10 ^ 292) + 2 * 2 ^ 971 ≤ 2 * 2 ^ 1024 + 10 ^ 292 := by
    exact_mod_cast bound
  have closed : 2 * 2 ^ 1024 + 10 ^ 292 <
      2 * ((17976931348623157 + 1) * 10 ^ 292) + 2 * 2 ^ 971 := by
    decide +kernel
  by_contra more
  have scaled := Nat.mul_le_mul_right (10 ^ 292) (Nat.lt_of_not_le more)
  omega

theorem point_le_of_last (atMost : exponent ≤ 971) (power : narrow = true → mantissa = 2 ^ 52)
    (some : 0 < mantissa) (le : (mantissa * 2 ^ exponent : ℚ) ≤ 2 ^ 1024 - 2 ^ 971)
    (found : (Interval.around mantissa exponent narrow).IsFound decimal 292 point) :
    point ≤ 17976931348623157 := by
  cases narrow with
  | true => exact point_le_of_power atMost (power rfl) found
  | false => exact point_le_of_even some le found

theorem scaled_of_canonical {numeral : Numeral}
    (canonical : IsCanonical .binary64 (.finite sign mantissa exponent positive))
    (less : |valueOf (.finite sign mantissa exponent positive)| < ceiling .binary64)
    (written : Layout.IsWritten numeral (Shortest.decimal .even mantissa exponent
      (Binary.narrowBelow .binary64 mantissa exponent)) 16) :
    numeral.total < Quantity.wordLimit ∧
      ∃ scaled, Quantity.scale? (.ofNat numeral.total) numeral.scale = some scaled := by
  have bound : exponent ≤ 971 := (canonical.lt_ceiling_iff (wide (α := Float))).mp less
  have power (narrow : Binary.narrowBelow .binary64 mantissa exponent = true) :
      mantissa = 2 ^ 52 :=
    (Binary.narrowBelow_iff.mp narrow).1
  have short : mantissa < 2 ^ 53 := by
    cases canonical with | finite least short long => exact short
  rcases Shortest.isFound_decimal .even positive short exponent
    (fun narrow => (power narrow).le) with ⟨grid, point, found⟩
  have digits := Shortest.decimal_pos .even positive short exponent
    (fun narrow => (power narrow).le)
  rw [abs_valueOf_finite] at less
  have rounds := found.isNear.toHolds.rounds canonical
  have le := rounds.isNumber.le_greatest less
  rw [greatest_double] at le
  rw [← found.value_eq, ← written.value_eq] at rounds
  have small := (rounds.lt_ceiling_iff (wide (α := Float))).mp
    (by rwa [abs_of_nonneg (by positivity)])
  generalize Shortest.decimal .even mantissa exponent
    (Binary.narrowBelow .binary64 mantissa exponent) = decimal at written found digits
  have atMost : decimal.digits ≤ point := by
    rcases found.isDecimal with rfl | ⟨same, -⟩
    · exact le_rfl
    · omega
  have fits : numeral.total ≤ 10 ^ 17 := by
    rcases written.parts with ⟨total, -⟩ | ⟨-, -, -, less⟩
    · exact total ▸ atMost.trans found.short
    · exact less.le
  refine ⟨lt_of_le_of_lt fits (by decide), Quantity.scale?_isSome (written.total_pos digits) fits
    ((le_abs_self _).trans_lt small) fun last => ?_⟩
  rcases written.parts with ⟨total, scale⟩ | ⟨-, scale, -⟩
  · rw [total]
    rcases found.isDecimal with rfl | ⟨same, -⟩
    · cases scale.symm.trans last
      exact point_le_of_last bound power positive le found
    · have short := found.short
      omega
  · cases scale.symm.trans last

theorem asDouble?_of_scaled {numeral : Numeral} (marked : numeral.IsMarked)
    (fits : numeral.total < Quantity.wordLimit) {scaled : Float}
    (read : Quantity.scale? (.ofNat numeral.total) numeral.scale = some scaled) :
    ∃ again, (Json.number numeral).asDouble? = some again := by
  rw [asDouble?, asQuantity?, Quantity.ofNumeral?_of_isMarked marked fits, read]
  exact ⟨_, rfl⟩

theorem double_of_unpacked {number : Float}
    (unpacked : Binary.unpacked number = .finite sign mantissa exponent positive) :
    double number = .number (Layout.doubleData.place (sign == .negative)
      (Shortest.decimal .even mantissa exponent
        (Binary.narrowBelow .binary64 mantissa exponent))) := by
  rw [double, Layout.numeral?, unpacked]
  rfl

theorem asDouble?_isSome {number : Float} (finite : number.isFinite = true) :
    ∃ again, (double number).asDouble? = some again := by
  replace finite : IsFinite number := finite
  have canonical := finite.canonical
  have less := abs_value_lt number
  cases unpacked : Binary.unpacked number with
  | zero sign =>
      have zero : double number = .number ⟨sign == .negative, [0], [0], none⟩ := by
        rw [double, Layout.numeral?, unpacked]
        rfl
      rw [zero]
      exact asDouble?_of_scaled (.inl (List.cons_ne_nil _ _)) (show 0 < _ by decide) rfl
  | finite sign mantissa exponent positive =>
      rw [unpacked] at canonical
      rw [value, unpacked] at less
      have written := Layout.place_isWritten_double (Shortest.decimal .even mantissa exponent
        (Binary.narrowBelow .binary64 mantissa exponent)) (sign == .negative)
      rcases scaled_of_canonical canonical less written with ⟨fits, scaled, read⟩
      rw [double_of_unpacked unpacked]
      exact asDouble?_of_scaled written.marked fits read
  | infinity | notANumber =>
      rw [unpacked] at canonical
      cases canonical

end

def reread (value : Float) : Float := (double value).asDouble?.getD value

theorem asDouble?_double {value : Float} (finite : value.isFinite = true) :
    (double value).asDouble? = some (reread value) := by
  rcases asDouble?_isSome finite with ⟨again, read⟩
  rw [reread, read, Option.getD_some]

theorem reread_eq_iff {value : Float} (finite : value.isFinite = true) :
    reread value = value ↔ ReadsBack value := by
  rw [readsBack_iff, asDouble?_double finite, Option.some.injEq]

end Json

end SpriteScript
