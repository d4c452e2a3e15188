import SpriteScript.Number.Numeral
import SpriteScript.Number.Shortest

namespace SpriteScript

/-! How numbers are written: the fewest digits that read back, laid out with a
point or with a power of ten, or a fixed count of places. -/

open Float.Model (UnpackedFloat)

/-- The choices of a number format. `positional` bounds the decimal exponents
that are written without a power of ten; without bounds every number is. -/
structure Layout where
  tie : Tie
  positional : Option (Int × Int)
  wholeFraction : List Digit

namespace Layout

/-- Plain text: never a power of ten, and whole numbers have no point. -/
def plain : Layout where
  tie := .upward
  positional := none
  wholeFraction := []

def doubleData : Layout where
  tie := .even
  positional := some (-5, 15)
  wholeFraction := [0]

def singleData : Layout where
  tie := .even
  positional := some (-6, 12)
  wholeFraction := [0]

def zeros (count : Int) : List Digit :=
  List.replicate count.toNat 0

def pointed (layout : Layout) (negative : Bool) (digits : List Digit) (exponent : Int) :
    Numeral :=
  let wholeCount := digits.length + exponent
  if 0 ≤ exponent then
    ⟨negative, digits ++ zeros exponent, layout.wholeFraction, none⟩
  else if 0 < wholeCount then
    ⟨negative, digits.take wholeCount.toNat, digits.drop wholeCount.toNat, none⟩
  else
    ⟨negative, [0], zeros (-wholeCount) ++ digits, none⟩

def powered (negative : Bool) (digits : List Digit) (exponent : Int) : Numeral where
  negative := negative
  whole := digits.take 1
  fraction := digits.drop 1
  power := some (.ofInt (exponent + digits.length - 1))

def place (layout : Layout) (negative : Bool) (decimal : Decimal) : Numeral :=
  let digits := Digits.ofNat decimal.digits
  let leading := decimal.exponent + digits.length - 1
  let inPlace := match layout.positional with
    | none => true
    | some (least, greatest) => least ≤ leading && leading ≤ greatest
  if inPlace then
    layout.pointed negative digits decimal.exponent
  else
    powered negative digits decimal.exponent

def numeral? [Binary α] (layout : Layout) (number : α) : Option Numeral :=
  match Binary.unpacked number with
  | .notANumber => none
  | .infinity _ => none
  | .zero sign => some ⟨sign == .negative, [0], layout.wholeFraction, none⟩
  | .finite sign mantissa exponent _ =>
      let narrow := Binary.narrowBelow (Binary.format α) mantissa exponent
      some (layout.place (sign == .negative)
        (Shortest.decimal layout.tie mantissa exponent narrow))

end Layout

namespace Number

def exceptional : UnpackedFloat → String
  | .infinity .negative => "-inf"
  | .infinity .positive => "inf"
  | _ => "NaN"

def text [Binary α] (number : α) : String :=
  match Layout.plain.numeral? number with
  | some numeral => .ofList numeral.chars
  | none => exceptional (Binary.unpacked number)

example : text (-20.5) = "-20.5" := by decide +kernel

example : text 1e21 = "1000000000000000000000" := by decide +kernel

/-- The numeral with a fixed count of places that is nearest to
`mantissa * 2 ^ exponent`; a half goes to the even digit. -/
def fixedNumeral (places : Nat) (negative : Bool) (mantissa : Nat) (exponent : Int) :
    Numeral :=
  let dividend := mantissa * Nat.pow 10 places * Nat.pow 2 exponent.toNat
  let divisor := Nat.pow 2 (-exponent).toNat
  let scaled := Tie.even.round (dividend / divisor) (dividend % divisor) divisor
  let fraction := Digits.ofNat (scaled % Nat.pow 10 places)
  { negative
    whole := Digits.ofNat (scaled / Nat.pow 10 places)
    fraction := if places = 0 then [] else Layout.zeros (places - fraction.length) ++ fraction
    power := none }

/-- Text with a fixed count of places. A negative number keeps its sign even
where all its digits are zero. -/
def fixed [Binary α] (places : Nat) (number : α) : String :=
  match Binary.unpacked number with
  | .zero sign => .ofList (fixedNumeral places (sign == .negative) 0 0).chars
  | .finite sign mantissa exponent _ =>
      .ofList (fixedNumeral places (sign == .negative) mantissa exponent).chars
  | other => exceptional other

example : fixed 1 0.25 = "0.2" := by decide +kernel

example : fixed 1 (-0.01) = "-0.0" := by decide +kernel

end Number

end SpriteScript
