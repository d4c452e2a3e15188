import SpriteScript.Number.Field
import SpriteScript.Number.Layout

namespace SpriteScript

/-! Named inputs of blocks. -/

inductive ValueType
  | number
  | text
deriving DecidableEq

namespace ValueType

def all : List ValueType := [.number, .text]

def name : ValueType → String
  | .number => "number"
  | .text => "text"

def ofName? (name : String) : Option ValueType :=
  all.find? fun valueType => valueType.name == name

end ValueType

inductive InputValue
  | number (value : Float)
  | text (value : String)
deriving DecidableEq

namespace InputValue

/-- The number that a value stands for; a text is read as an edited field. -/
def asNumber? : InputValue → Option Float
  | .number value => some value
  | .text value => Number.ofField? value

def shown : InputValue → String
  | .number value => Number.text value
  | .text value => value

/-- Equality of values; numbers are compared as numbers. -/
def same : InputValue → InputValue → Bool
  | .number left, .number right => left == right
  | .text left, .text right => left == right
  | _, _ => false

end InputValue

/-- An input holds a value, and the type of value that its slot was made for. -/
structure Input where
  valueType : ValueType
  value : InputValue
deriving DecidableEq

def Input.same (left right : Input) : Bool :=
  left.valueType == right.valueType && left.value.same right.value

/-- Inputs by name, in ascending order of their names. -/
abbrev Inputs := List (String × Input)

namespace Inputs

def names (inputs : Inputs) : List String := inputs.map Prod.fst

def find? (inputs : Inputs) (name : String) : Option Input :=
  (List.find? (fun entry => entry.1 == name) inputs).map Prod.snd

def has (inputs : Inputs) (name : String) : Bool :=
  inputs.any fun entry => entry.1 == name

def insert (name : String) (input : Input) : Inputs → Inputs
  | [] => [(name, input)]
  | entry :: rest =>
      if entry.1 == name then (name, input) :: rest
      else if name < entry.1 then (name, input) :: entry :: rest
      else entry :: insert name input rest

def setValue (inputs : Inputs) (name : String) (value : InputValue) : Inputs :=
  inputs.map fun entry =>
    if entry.1 == name then (entry.1, ⟨entry.2.valueType, value⟩) else entry

def same : Inputs → Inputs → Bool
  | [], [] => true
  | (leftName, left) :: leftRest, (rightName, right) :: rightRest =>
      leftName == rightName && left.same right && same leftRest rightRest
  | _, _ => false

theorem names_setValue (inputs : Inputs) (name : String) (value : InputValue) :
    (inputs.setValue name value).names = inputs.names := by
  simp only [names, setValue, List.map_map]
  apply List.map_congr_left
  intro entry _
  simp only [Function.comp]
  split <;> rfl

end Inputs

end SpriteScript
