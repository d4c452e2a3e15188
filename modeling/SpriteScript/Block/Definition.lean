import SpriteScript.Block.Input
import SpriteScript.Block.Kind

namespace SpriteScript

/-! The palette: what each kind of block looks like and which inputs it has. -/

/-- A slot for an input; its first value also fixes its type. -/
structure Slot where
  name : String
  first : InputValue

namespace Slot

def valueType (slot : Slot) : ValueType :=
  match slot.first with
  | .number _ => .number
  | .text _ => .text

def input (slot : Slot) : Input := ⟨slot.valueType, slot.first⟩

end Slot

structure Definition where
  kind : BlockKind
  label : String
  color : String
  slots : List Slot

namespace Definition

def category (definition : Definition) : Category := definition.kind.category

def isContainer (definition : Definition) : Bool := definition.kind.isContainer

def names (definition : Definition) : List String := definition.slots.map Slot.name

def slot? (definition : Definition) (name : String) : Option Slot :=
  definition.slots.find? fun slot => slot.name == name

def inputs (definition : Definition) : Inputs :=
  definition.slots.foldl (fun inputs slot => inputs.insert slot.name slot.input) []

end Definition

/-! Braces in labels are written by their code so that they stand for themselves. -/

def BlockKind.definition : BlockKind → Definition
  | .moveSteps =>
      ⟨.moveSteps, "move \x7bsteps\x7d steps", "blue", [⟨"steps", .number 10.0⟩]⟩
  | .turnDegrees =>
      ⟨.turnDegrees, "turn \x7bdegrees\x7d degrees", "blue", [⟨"degrees", .number 15.0⟩]⟩
  | .goToXY =>
      ⟨.goToXY, "go to x: \x7bx\x7d y: \x7by\x7d", "blue",
        [⟨"x", .number 0.0⟩, ⟨"y", .number 0.0⟩]⟩
  | .repeatTimes =>
      ⟨.repeatTimes, "repeat \x7btimes\x7d", "orange", [⟨"times", .number 10.0⟩]⟩
  | .say =>
      ⟨.say, "say \x7btext\x7d for \x7bseconds\x7d seconds", "purple",
        [⟨"text", .text "Hello!"⟩, ⟨"seconds", .number 2.0⟩]⟩
  | .think =>
      ⟨.think, "think \x7btext\x7d for \x7bseconds\x7d seconds", "purple",
        [⟨"text", .text "Hmm..."⟩, ⟨"seconds", .number 2.0⟩]⟩

def palette : List Definition := BlockKind.all.map BlockKind.definition

def Definition.ofName? (name : String) : Option Definition :=
  palette.find? fun definition => definition.kind.name == name

theorem BlockKind.definition_kind (kind : BlockKind) : kind.definition.kind = kind := by
  cases kind <;> rfl

end SpriteScript
