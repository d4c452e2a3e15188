import SpriteScript.Play.Repetition
import SpriteScript.Stage.Sprite
import SpriteScript.Motion.Tween
import SpriteScript.Stage.Action

namespace SpriteScript

/-! What blocks come to in the end, apart from time: each block as one change of
a sprite, and a program as the list of all blocks that it starts. -/

structure Stance where
  position : Point Float32
  rotation : Float32
deriving DecidableEq

structure Look extends Stance where
  sayText : String
  sayDuration : Float
  thinkText : String
  thinkDuration : Float
deriving DecidableEq

namespace Sprite

def stance (sprite : Sprite) : Stance := ⟨sprite.position, sprite.rotation⟩

def look (sprite : Sprite) : Look where
  toStance := sprite.stance
  sayText := sprite.sayText
  sayDuration := sprite.sayDuration
  thinkText := sprite.thinkText
  thinkDuration := sprite.thinkDuration

end Sprite

namespace Pose

def isFinite : Pose Float32 → Bool
  | .position point => point.isFinite
  | .rotation angle => angle.isFinite

end Pose

/-! ## One block -/

def Bubble.duration (seconds : Float) : Float :=
  let asked := seconds * 1000.0
  if 0.0 < asked then asked else 0.0

namespace Block

/-- The motion that a block puts a sprite through, from the stance of the sprite.
There is none for a block of another kind or without a number that it needs. -/
def motion? (block : Block) (stance : Stance) : Option (Motion Float32) :=
  match block.kind with
  | .moveSteps =>
      match block.number "steps" with
      | .ok steps =>
          let direction := Heading.direction stance.rotation
          some (.slide stance.position (stance.position.advance direction (Number.single steps)))
      | .error _ => none
  | .turnDegrees =>
      match block.number "degrees" with
      | .ok degrees => some (.spin stance.rotation (stance.rotation + Number.single degrees))
      | .error _ => none
  | .goToXY =>
      match block.number "x", block.number "y" with
      | .ok x, .ok y => some (.slide stance.position ⟨Number.single x, Number.single y⟩)
      | _, _ => none
  | .repeatTimes | .say | .think => none

def speech? (block : Block) : Option (Bubble × Float) :=
  match block.kind with
  | .say => (block.number "seconds").toOption.map fun seconds => (.speech, seconds)
  | .think => (block.number "seconds").toOption.map fun seconds => (.thought, seconds)
  | _ => none

theorem motion?_of_speech? {block : Block} {shown : Bubble × Float}
    (speaks : block.speech? = some shown) (stance : Stance) : block.motion? stance = none := by
  rw [speech?] at speaks
  rw [motion?]
  cases kind : block.kind <;> simp_all

theorem speech?_of_motion? {block : Block} {stance : Stance} {motion : Motion Float32}
    (asked : block.motion? stance = some motion) : block.speech? = none := by
  cases speaks : block.speech? with
  | none => rfl
  | some shown =>
      rw [block.motion?_of_speech? speaks] at asked
      cases asked

end Block

namespace Stance

def pose (stance : Stance) : Pose Float32 → Stance
  | .position position => { stance with position }
  | .rotation rotation => { stance with rotation }

def after? (stance : Stance) (block : Block) : Option Stance :=
  match block.motion? stance with
  | some motion => if motion.target.isFinite then some (stance.pose motion.target) else none
  | none => some stance

/-- The stance that blocks lead to one after the other, up to the first one whose
target is not finite. -/
def afterAll (stance : Stance) : List Block → Stance
  | [] => stance
  | block :: rest =>
      match stance.after? block with
      | some next => next.afterAll rest
      | none => stance

end Stance

namespace Look

def clear (look : Look) : Bubble → Look
  | .speech => { look with sayText := "", sayDuration := 0.0 }
  | .thought => { look with thinkText := "", thinkDuration := 0.0 }

/-- The look that a block leads to. A bubble that it shows is gone in the end. -/
def after? (look : Look) (block : Block) : Option Look :=
  match block.speech? with
  | some (bubble, _) => some (look.clear bubble)
  | none => (look.toStance.after? block).map fun stance => { look with toStance := stance }

def afterAll (look : Look) : List Block → Look
  | [] => look
  | block :: rest =>
      match look.after? block with
      | some next => next.afterAll rest
      | none => look

@[simp] theorem toStance_clear (look : Look) (bubble : Bubble) :
    (look.clear bubble).toStance = look.toStance := by
  cases bubble <;> rfl

theorem toStance_after? (look : Look) (block : Block) :
    (look.after? block).map Look.toStance = look.toStance.after? block := by
  rw [after?]
  split
  · next bubble seconds speaks =>
      rw [Option.map_some, toStance_clear, Stance.after?, block.motion?_of_speech? speaks]
  · rw [Option.map_map]
    exact Option.map_id'

theorem toStance_afterAll (look : Look) (blocks : List Block) :
    (look.afterAll blocks).toStance = look.toStance.afterAll blocks := by
  induction blocks generalizing look with
  | nil => rfl
  | cons block rest induction =>
      have step := look.toStance_after? block
      cases after : look.after? block with
      | some next =>
          rw [after, Option.map_some] at step
          simp only [afterAll, Stance.afterAll, after, ← step, induction]
      | none =>
          rw [after, Option.map_none] at step
          simp only [afterAll, Stance.afterAll, after, ← step]

end Look

/-! ## Whole programs -/

namespace Block

def rounds (block : Block) : Nat :=
  if block.kind = .repeatTimes then block.passes else 0

theorem kind_of_rounds {block : Block} (going : 0 < block.rounds) :
    block.kind = .repeatTimes := by
  by_cases repeats : block.kind = .repeatTimes
  · exact repeats
  · rw [rounds, if_neg repeats] at going
    exact absurd going (Nat.lt_irrefl 0)

mutual

/-- The blocks that are started in the course of a block, in order: the block
itself, and then its children once for each round. -/
def unfold : Block → List Block
  | .plain head => [.plain head]
  | .container head children =>
      .container head children ::
        (List.replicate (rounds (.container head children)) (unfolds children)).flatten

def unfolds : List Block → List Block
  | [] => []
  | block :: rest => block.unfold ++ unfolds rest

end

def isEntered : Block → Bool
  | .plain _ => false
  | .container head children =>
      !children.isEmpty && decide (0 < rounds (.container head children))

theorem unfold_of_not_isEntered {block : Block} (alone : block.isEntered = false) :
    block.unfold = [block] := by
  cases block with
  | plain head => rfl
  | container head children =>
      cases children with
      | nil => simp [unfold, unfolds]
      | cons first rest =>
          have none : rounds (.container head (first :: rest)) = 0 := by
            simpa [isEntered] using alone
          simp [unfold, none]

end Block

end SpriteScript
