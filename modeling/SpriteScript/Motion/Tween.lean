import SpriteScript.Motion.Point
import SpriteScript.Number.Arithmetic

namespace SpriteScript

/-! Animations: a value that moves from a source to a target over a span of
time, quickly at first and gently at the end. An animation has no state of its
own; it is sampled at the time of each frame. -/

open Arithmetic

inductive Motion (Distance : Type)
  | slide (source target : Point Distance)
  | spin (source target : Distance)

inductive Pose (Distance : Type)
  | position (point : Point Distance)
  | rotation (angle : Distance)
deriving DecidableEq

structure Tween (Time Distance : Type) where
  motion : Motion Distance
  start : Time
  duration : Time

namespace Motion

variable {Distance : Type}

def source : Motion Distance → Pose Distance
  | .slide source _ => .position source
  | .spin source _ => .rotation source

def target : Motion Distance → Pose Distance
  | .slide _ target => .position target
  | .spin _ target => .rotation target

/-- A place is mixed from both ends, a rotation is the source plus a part of the
way. -/
def between [Arithmetic Distance] (fraction : Distance) : Motion Distance → Pose Distance
  | .slide source target => .position
      ⟨source.x * (one - fraction) + target.x * fraction,
        source.y * (one - fraction) + target.y * fraction⟩
  | .spin source target => .rotation (source + (target - source) * fraction)

end Motion

def easedPart [Arithmetic Time] (progress : Time) : Time :=
  let left := one - clampUnit progress
  one - left * left * left

example : easedPart (1 / 2 : Rat) = 7 / 8 := by decide +kernel

namespace Tween

variable {Time Distance : Type}

/-- The part of the time that has passed; without a duration all of it has. -/
def progress [Arithmetic Time] (tween : Tween Time Distance) (now : Time) : Time :=
  if tween.duration ≤ zero then one else clampUnit ((now - tween.start) / tween.duration)

def isDone [Arithmetic Time] (tween : Tween Time Distance) (now : Time) : Bool :=
  one ≤ tween.progress now

/-- The moment at `now`. The end is the target itself, not a rounded mixture. -/
def sample [Arithmetic Time] [Arithmetic Distance] [Fraction Time Distance]
    (tween : Tween Time Distance) (now : Time) : Pose Distance :=
  if tween.isDone now then
    tween.motion.target
  else
    tween.motion.between (Fraction.along (easedPart (tween.progress now)))

example :
    (Tween.mk (.spin 0 8) 100 10 : Tween Rat Rat).sample 105 = .rotation 7 := by decide +kernel

end Tween

end SpriteScript
