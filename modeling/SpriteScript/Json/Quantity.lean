import SpriteScript.Number.Binary
import SpriteScript.Number.Numeral

namespace SpriteScript

/-! Numbers in structured data: their grammar, and the values they are read as.

A whole number that fits its word is exact. Any other number is read in two
steps: its digits are gathered in a word of 64 bits as long as they fit, and
the result is scaled by a power of ten. Each step rounds, so the value may be a
neighbour of the nearest one. -/

namespace Numeral

/-- The grammar: no plus sign, no leading zero, digits on both sides of a
point and after the mark of a power. -/
def ofData? (chars : List Char) : Option Numeral :=
  let (negative, unsigned) := match chars with
    | '-' :: rest => (true, rest)
    | rest => (false, rest)
  let (whole, afterWhole) := Digits.split unsigned
  let wholeFits := match whole with
    | [] => false
    | 0 :: _ :: _ => false
    | _ => true
  let (pointed, fraction, afterFraction) := match afterWhole with
    | '.' :: rest =>
        let (fraction, rest) := Digits.split rest
        (true, fraction, rest)
    | rest => (false, [], rest)
  if !wholeFits || (pointed && fraction.isEmpty) then
    none
  else
    match afterFraction with
    | [] => some ⟨negative, whole, fraction, none⟩
    | mark :: rest =>
        if mark = 'e' ∨ mark = 'E' then
          let (below, digits) := match rest with
            | '-' :: digits => (true, digits)
            | '+' :: digits => (false, digits)
            | digits => (false, digits)
          match Digits.split digits with
          | (digit :: digits, []) => some ⟨negative, whole, fraction, some ⟨below, digit :: digits⟩⟩
          | _ => none
        else
          none

example : ofData? "-0.5e3".toList = some ⟨true, [0], [5], some ⟨false, [3]⟩⟩ := by
  decide +kernel

example : ofData? "01".toList = none ∧ ofData? "1.".toList = none := by decide +kernel

end Numeral

inductive Quantity
  | natural (number : Nat)
  | negative (number : Nat)
  | real (number : Float)

namespace Quantity

def wordLimit : Nat := Nat.pow 2 64

/-- Gathers digits as long as the result stays below the limit of a word, and
returns the digits that are left. -/
def gather (total : Nat) : List Digit → Nat × List Digit
  | [] => (total, [])
  | digit :: rest =>
      let next := 10 * total + digit.val
      if next < wordLimit then gather next rest else (total, digit :: rest)

def greatestPower : Nat := 308

def powerOfTen (power : Nat) : Float :=
  .ofScientific 1 false power

/-- Divides by a power of ten that may be too great to be a number itself. -/
def divide (number : Float) (power : Nat) : Float :=
  stages ((power - 1) / greatestPower) number
where
  stages : Nat → Float → Float
    | 0, number => number / powerOfTen (power - (power - 1) / greatestPower * greatestPower)
    | turns + 1, number =>
        if number == 0.0 then number else stages turns (number / powerOfTen greatestPower)

def scale? (number : Float) (power : Int) : Option Float :=
  if power < 0 then
    some (divide number power.natAbs)
  else if number == 0.0 then
    some number
  else if power.natAbs ≤ greatestPower then
    let scaled := number * powerOfTen power.natAbs
    if scaled.isInf then none else some scaled
  else
    none

def ofNumeral? (numeral : Numeral) : Option Quantity :=
  let (wholeTotal, wholeLeft) := gather 0 numeral.whole
  if numeral.fraction.isEmpty && numeral.power.isNone && wholeLeft.isEmpty
      && (!numeral.negative || (0 < wholeTotal && wholeTotal ≤ Nat.pow 2 63)) then
    some (if numeral.negative then .negative wholeTotal else .natural wholeTotal)
  else
    let (total, fractionLeft) := gather wholeTotal numeral.fraction
    let power := (numeral.power.map Power.toInt).getD 0
      + wholeLeft.length + fractionLeft.length - numeral.fraction.length
    (scale? (.ofNat total) power).map fun magnitude =>
      .real (if numeral.negative then -magnitude else magnitude)

def toDouble : Quantity → Float
  | .natural number => .ofNat number
  | .negative number => -(.ofNat number)
  | .real number => number

/-- Whole numbers go to single width in one step, all others through double
width. -/
def toSingle : Quantity → Float32
  | .natural number => .ofNat number
  | .negative number => -(.ofNat number)
  | .real number => Number.single number

end Quantity

end SpriteScript
