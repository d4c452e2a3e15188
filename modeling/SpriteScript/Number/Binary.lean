namespace SpriteScript

/-! Binary floating-point numbers seen as exact values: a sign, a whole
mantissa and a power of two. Printing, rounding and conversion between the two
widths are all stated on this view, so that they are computed by exact
arithmetic on whole numbers. -/

open Float.Model (Format UnpackedFloat)

class Binary (α : Type) where
  format : Format
  unpacked : α → UnpackedFloat

instance : Binary Float where
  format := .binary64
  unpacked number := number.toModel.unpack

instance : Binary Float32 where
  format := .binary32
  unpacked number := number.toModel.unpack

/-- Whether the spacing of the numbers below a mantissa is half the spacing
above it: so at every power of two that is not among the smallest numbers. -/
def Binary.narrowBelow (format : Format) (mantissa : Nat) (exponent : Int) : Bool :=
  mantissa == Nat.pow 2 format.mantissaBitsWithoutImplicit && format.minExponent < exponent

/-! ## Rounding -/

namespace Number

/-- The nearest single-width number; a half goes to the even mantissa, and a
number beyond the largest one becomes infinite. -/
def single (number : Float) : Float32 :=
  .ofModel <| .pack <| match number.toModel.unpack with
    | .finite sign mantissa exponent _ => .round .binary32 sign mantissa exponent
    | other => other

example : (single 0.1).toBits = 0x3DCCCCCD := by decide +kernel

example : (single 1e39).isInf = true := by decide +kernel

def wholePart (mantissa : Nat) (exponent : Int) : Nat × Bool :=
  if 0 ≤ exponent then
    (mantissa <<< exponent.toNat, true)
  else
    let unit := Nat.pow 2 (-exponent).toNat
    (mantissa / unit, mantissa % unit == 0)

def wholeAbove (mantissa : Nat) (exponent : Int) : Nat :=
  match wholePart mantissa exponent with
  | (whole, true) => whole
  | (whole, false) => whole + 1

def floor (number : Float) : Float :=
  match number.toModel.unpack with
  | .finite sign mantissa exponent _ =>
      if 0 ≤ exponent then
        number
      else
        match sign with
        | .positive => .ofNat (wholePart mantissa exponent).1
        | .negative => -(.ofNat (wholeAbove mantissa exponent))
  | _ => number

example : floor 2.5 = 2.0 := by decide +kernel

example : floor (-2.5) = -3.0 := by decide +kernel

end Number

end SpriteScript
