import SpriteScript.Number.Binary

namespace SpriteScript

/-! The shortest decimal that reads back as a given binary number.

A decimal reads back as a binary number exactly when it lies in the interval of
values that round to that number; the ends belong to the interval when the
mantissa is even. On each decimal grid, coarse to fine, only the two neighbours
of the value can be the nearest points inside the interval. The first grid with
such a point gives the fewest digits. -/

/-- The value `digits * 10 ^ exponent`. -/
structure Decimal where
  digits : Nat
  exponent : Int
deriving DecidableEq

/-- Where a value half way between two decimals goes. -/
inductive Tie
  | upward
  | even
deriving DecidableEq

namespace Tie

def round (tie : Tie) (whole remainder divisor : Nat) : Nat :=
  match compare (2 * remainder) divisor with
  | .lt => whole
  | .gt => whole + 1
  | .eq =>
      match tie with
      | .upward => whole + 1
      | .even => whole + whole % 2

example : Tie.even.round 2 1 2 = 2 ∧ Tie.upward.round 2 1 2 = 3 := by decide

end Tie

namespace Shortest

/-- The values that round to a number, as multiples of one exact unit
`numerator / denominator`. -/
structure Interval where
  low : Nat
  value : Nat
  high : Nat
  closed : Bool
  numerator : Nat
  denominator : Nat

/-- Half of the spacing on each side of `mantissa * 2 ^ exponent`, measured in
quarters of the spacing above. -/
def Interval.around (mantissa : Nat) (exponent : Int) (narrowBelow : Bool) : Interval where
  low := 4 * mantissa - (if narrowBelow then 1 else 2)
  value := 4 * mantissa
  high := 4 * mantissa + 2
  closed := mantissa % 2 == 0
  numerator := Nat.pow 2 (exponent - 2).toNat
  denominator := Nat.pow 2 (2 - exponent).toNat

namespace Interval

def magnitude (interval : Interval) : Int :=
  let scaled := interval.value * interval.numerator
  if interval.denominator ≤ scaled then
    (Nat.toDigits 10 (scaled / interval.denominator)).length - 1
  else
    -((Nat.toDigits 10 ((interval.denominator - 1) / scaled)).length : Int)

/-- The point of the grid `10 ^ power` that is nearest to the value among its
two neighbours inside the interval. -/
def neighbour? (interval : Interval) (tie : Tie) (power : Int) : Option Nat :=
  let scale := interval.numerator * Nat.pow 10 (-power).toNat
  let unit := interval.denominator * Nat.pow 10 power.toNat
  let below := interval.value * scale / unit
  let remainder := interval.value * scale % unit
  let reaches (small large : Nat) : Bool :=
    if interval.closed then small ≤ large else small < large
  let belowInside := remainder == 0 || reaches (interval.low * scale) (below * unit)
  let aboveInside := reaches ((below + 1) * unit) (interval.high * scale)
  match belowInside, aboveInside with
  | true, true => some (tie.round below remainder unit)
  | true, false => some below
  | false, true => some (below + 1)
  | false, false => none

def search (interval : Interval) (tie : Tie) : Nat → Int → Decimal
  | 0, power => ⟨0, power⟩
  | fuel + 1, power =>
      match interval.neighbour? tie power with
      | none => interval.search tie fuel (power - 1)
      | some point =>
          if point % 10 = 0 then ⟨point / 10, power + 1⟩ else ⟨point, power⟩

end Interval

/-- Seventeen digits are enough for every number of either width. -/
def digitLimit : Nat := 17

/-- The shortest decimal for `mantissa * 2 ^ exponent`, nearest to it among the
shortest. -/
def decimal (tie : Tie) (mantissa : Nat) (exponent : Int) (narrowBelow : Bool) : Decimal :=
  let interval := Interval.around mantissa exponent narrowBelow
  interval.search tie digitLimit interval.magnitude

example : decimal .even 1 (-1074) false = ⟨5, -324⟩ := by decide +kernel

example : decimal .even 0x1999999999999A (-56) false = ⟨1, -1⟩ := by decide +kernel

end Shortest

end SpriteScript
