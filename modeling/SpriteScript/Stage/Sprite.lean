import SpriteScript.Block.Basic
import SpriteScript.Motion.Point

namespace SpriteScript

/-! Sprites: the actors on the stage. -/

structure Sprite where
  id : SpriteId
  name : String
  position : Point Float32
  /-- In degrees; full turns count on. -/
  rotation : Float32
  program : List Block
  sayText : String
  sayDuration : Float
  thinkText : String
  thinkDuration : Float
  isRunning : Bool

namespace Sprite

def new (id : SpriteId) (name : String) (position : Point Float32) : Sprite where
  id := id
  name := name
  position := position
  rotation := 0.0
  program := []
  sayText := ""
  sayDuration := 0.0
  thinkText := ""
  thinkDuration := 0.0
  isRunning := false

private def shown? (text : String) : Option String :=
  if text.isEmpty then none else some text

def speech? (sprite : Sprite) : Option String := shown? sprite.sayText

def thought? (sprite : Sprite) : Option String := shown? sprite.thinkText

def blockCount (sprite : Sprite) : Nat := Block.sizes sprite.program

end Sprite

end SpriteScript
