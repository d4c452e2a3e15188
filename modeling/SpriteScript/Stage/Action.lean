import SpriteScript.Motion.Tween
import SpriteScript.Stage.LockKey

namespace SpriteScript

/-! Actions: the changes that a playing program or a collision makes to the
stage. An action on a sprite that is not there changes nothing. -/

inductive Action
  | setRunning (sprite : SpriteId) (isRunning : Bool)
  | setPosition (sprite : SpriteId) (position : Point Float32)
  | setRotation (sprite : SpriteId) (rotation : Float32)
  | say (sprite : SpriteId) (text : String) (duration : Float)
  | clearSay (sprite : SpriteId)
  | think (sprite : SpriteId) (text : String) (duration : Float)
  | clearThink (sprite : SpriteId)
  | swapPrograms (left right : SpriteId)
  | lock (key : LockKey)
  | unlock (key : LockKey)
deriving DecidableEq

inductive Bubble
  | speech
  | thought
deriving DecidableEq

namespace Bubble

def fill (bubble : Bubble) (sprite : SpriteId) (text : String) (duration : Float) : Action :=
  match bubble with
  | .speech => .say sprite text duration
  | .thought => .think sprite text duration

def clear (bubble : Bubble) (sprite : SpriteId) : Action :=
  match bubble with
  | .speech => .clearSay sprite
  | .thought => .clearThink sprite

end Bubble

namespace Pose

def toAction (pose : Pose Float32) (sprite : SpriteId) : Action :=
  match pose with
  | .position point => .setPosition sprite point
  | .rotation angle => .setRotation sprite angle

end Pose

end SpriteScript
