import SpriteScript.Block.Basic

namespace SpriteScript

/-! How often a repeat block goes through its children. -/

namespace Repetition

def limit : Nat := Nat.pow 2 32 - 1

/-- The passes for a number of times: the least whole number that is not below
it, and none if there is no such number or it is not positive. -/
def passes (times : Float) : Nat :=
  match times.toModel.unpack with
  | .finite .positive mantissa exponent _ => min (Number.wholeAbove mantissa exponent) limit
  | .infinity .positive => limit
  | _ => 0

example : passes 2.5 = 3 := by decide +kernel

example : passes (-1.0) = 0 := by decide +kernel

end Repetition

def Block.passes (block : Block) : Nat :=
  match block.number "times" with
  | .ok times => Repetition.passes times
  | .error _ => 0

end SpriteScript
