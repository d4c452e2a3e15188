import SpriteScript.Number.Numeral
import SpriteScript.Text.Blank

namespace SpriteScript

/-! The number that the text of an edited field stands for. Blanks around it do
not count. A sign, a missing side of the point and a power of ten are allowed,
and so are the names of the infinities and of what is not a number. -/

namespace Number

def infinite : Float := 1.0 / 0.0

def undefined : Float := 0.0 / 0.0

/-- A number written as a word, in any mixture of small and capital letters. -/
def ofWord? (word : List Char) : Option Float :=
  let lower := word.map Char.toLower
  if lower = "inf".toList ∨ lower = "infinity".toList then
    some infinite
  else if lower = "nan".toList then
    some undefined
  else
    none

/-- The power of ten that ends a number, if all that is left is one. -/
def power? : List Char → Option (Option Power)
  | [] => some none
  | mark :: rest =>
      if mark = 'e' ∨ mark = 'E' then
        let (negative, digits) := match rest with
          | '-' :: digits => (true, digits)
          | '+' :: digits => (false, digits)
          | digits => (false, digits)
        match Digits.split digits with
        | ([], _) => none
        | (power, []) => some (some ⟨negative, power⟩)
        | (_, _ :: _) => none
      else
        none

def ofUnsigned? (chars : List Char) : Option Float :=
  let (whole, afterWhole) := Digits.split chars
  let (fraction, afterFraction) := match afterWhole with
    | '.' :: rest => Digits.split rest
    | rest => ([], rest)
  if whole.isEmpty && fraction.isEmpty then
    ofWord? chars
  else
    (power? afterFraction).map fun power => Numeral.nearest ⟨false, whole, fraction, power⟩

/-- Reads the text of a field; the nearest number is taken. -/
def ofField? (field : String) : Option Float :=
  match Text.trimmed field with
  | '-' :: chars => (ofUnsigned? chars).map fun number => -number
  | '+' :: chars => ofUnsigned? chars
  | chars => ofUnsigned? chars

example : ofField? " -12.5e1 " = some (-125.0) := by decide +kernel

example : ofField? "five" = none := by decide +kernel

end Number

end SpriteScript
