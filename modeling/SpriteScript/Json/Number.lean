import SpriteScript.Json.Basic
import SpriteScript.Number.Layout

namespace SpriteScript

/-! Binary numbers in trees: infinities and what is not a number become null. -/

namespace Json

def double (value : Float) : Json :=
  match Layout.doubleData.numeral? value with
  | some numeral => .number numeral
  | none => .null

def single (value : Float32) : Json :=
  match Layout.singleData.numeral? value with
  | some numeral => .number numeral
  | none => .null

end Json

end SpriteScript
