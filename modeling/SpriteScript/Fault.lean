import SpriteScript.Block.Kind
import SpriteScript.Identifier
import SpriteScript.Text.Quoted

namespace SpriteScript

/-! What can go wrong, and how it is told. -/

/-- Why settings cannot be used; `shown` is the text of the value. -/
inductive SettingFault
  | notDuration (setting shown : String)
  | notPositive (setting shown : String)
deriving DecidableEq

namespace SettingFault

def message : SettingFault → String
  | .notDuration setting shown =>
      s!"{setting} must be a finite, non-negative duration (got {shown})"
  | .notPositive setting shown => s!"{setting} must be positive (got {shown})"

end SettingFault

inductive Fault
  | unknownKind (name : String)
  | spriteNotFound (sprite : SpriteId)
  | unreachableTarget (sprite : SpriteId) (label : String)
  | malformedInput (block : BlockId) (input value : String)
  | schemaMismatch (block : BlockId) (kind : BlockKind)
  | notContainer (block : BlockId)
  | indexOutOfRange (index length : Nat)
  | invalidSettings (cause : SettingFault)
deriving DecidableEq

namespace Fault

def message : Fault → String
  | .unknownKind name => s!"Unknown block kind: {name}"
  | .spriteNotFound sprite => s!"Sprite not found: {sprite.label}"
  | .unreachableTarget sprite label =>
      s!"Execution failed for {sprite.label}: {label} produced a non-finite target"
  | .malformedInput block input value =>
      s!"Block {block.label} input `{input}` is not a number: {Text.quoted value}"
  | .schemaMismatch block kind => s!"Block {block.label} does not match the {kind.name} schema"
  | .notContainer block => s!"Block {block.label} is not a container"
  | .indexOutOfRange index length =>
      s!"Index {index} out of range (len {length})"
  | .invalidSettings cause => s!"Invalid settings: {cause.message}"

example : (Fault.notContainer ⟨7⟩).message = "Block block_7 is not a container" := by
  decide +kernel

end Fault

end SpriteScript
