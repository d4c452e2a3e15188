import SpriteScript.Play.Playback

namespace SpriteScript

/-! Rollouts: an actor driven frame after frame by a clock of its own. -/

structure Moment (Answer : Type) where
  frame : Nat
  stage : Stage
  answer : Answer
  trace : Trace

/-- An actor after some frames; the latest moment comes first. -/
structure Rollout (Actor Answer : Type) where
  actor : Actor
  stage : Stage
  now : Float
  frames : Nat
  moments : List (Moment Answer)

namespace Rollout

def frameInterval : Float := 1000.0 / 60.0

variable {Actor Answer : Type}

def start (actor : Actor) (stage : Stage) (now : Float) : Rollout Actor Answer :=
  ⟨actor, stage, now, 0, []⟩

def goOn (isGoing : Actor → Stage → Bool)
    (frame : Actor → Stage → Float → Turn Actor Answer) (interval : Float) :
    Nat → Rollout Actor Answer → Rollout Actor Answer
  | 0, rollout => rollout
  | limit + 1, rollout =>
      if isGoing rollout.actor rollout.stage then
        let now := rollout.now + interval
        let turn := frame rollout.actor rollout.stage now
        let number := rollout.frames + 1
        goOn isGoing frame interval limit
          { actor := turn.actor
            stage := turn.stage
            now
            frames := number
            moments := ⟨number, turn.stage, turn.answer, turn.trace⟩ :: rollout.moments }
      else
        rollout

def trace (rollout : Rollout Actor Answer) : Trace :=
  rollout.moments.reverse.flatMap Moment.trace

end Rollout

def Engine.rollOut (engine : Engine) (stage : Stage) (now interval : Float) (limit : Nat) :
    Rollout Engine (List SpriteId) :=
  Rollout.goOn (fun engine _ => !engine.isIdle) Engine.advance interval limit
    (.start engine stage now)

def Playback.rollOut (playback : Playback) (stage : Stage) (now interval : Float)
    (limit : Nat) : Rollout Playback Bool :=
  Rollout.goOn (fun _ stage => stage.isPlaying) Playback.frame interval limit
    (.start playback stage now)

end SpriteScript
