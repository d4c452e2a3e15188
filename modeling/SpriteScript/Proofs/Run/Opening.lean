import SpriteScript.Play.Run
import SpriteScript.Proofs.Run.Effect

namespace SpriteScript

/-! The ways in which a block can start, told once. -/

def Event.isSkip : Event → Bool
  | .blockSkipped _ _ => true
  | _ => false

theorem Trace.actions_of_isSkip {trace : Trace} (told : ∀ event ∈ trace, event.isSkip) :
    trace.actions = [] := by
  apply List.filterMap_eq_nil_iff.mpr
  intro event member
  have skip := told event member
  cases event <;> simp_all [Event.isSkip, Event.action?]

def Settings.duration? (settings : Settings) : BlockKind → Option Float
  | .moveSteps => some settings.moveDuration
  | .turnDegrees => some settings.turnDuration
  | .goToXY => some settings.glideDuration
  | .repeatTimes | .say | .think => none

namespace Run

/-! ## A block that is not entered -/

/-- How a block that is not entered starts: what the run waits for then, and what
happens. -/
inductive Opening (scene : Scene) (block : Block) : Except Fault Wait × Trace → Prop
  | idle (trace : Trace) (told : ∀ event ∈ trace, event.isSkip) (silent : block.speech? = none)
      (still : ∀ sprite, scene.sprite? = some sprite → block.motion? sprite.stance = none) :
      Opening scene block (.ok scene.pause, trace)
  | moving (sprite : Sprite) (motion : Motion Float32) (duration : Float)
      (found : scene.sprite? = some sprite) (asked : block.motion? sprite.stance = some motion)
      (reachable : motion.target.isFinite = true)
      (timed : scene.settings.duration? block.kind = some duration) :
      Opening scene block (.ok (.animating ⟨motion, scene.now, duration⟩), [])
  | unreachable (sprite : Sprite) (motion : Motion Float32)
      (found : scene.sprite? = some sprite) (asked : block.motion? sprite.stance = some motion)
      (beyond : motion.target.isFinite = false) :
      Opening scene block (.error (.unreachableTarget scene.id block.label), [])
  | speaking (bubble : Bubble) (seconds duration : Float)
      (asked : block.speech? = some (bubble, seconds)) (lasting : 0.0 < duration)
      (measured : duration = Bubble.duration seconds) :
      Opening scene block
        (.ok (.speaking bubble (scene.now + duration)),
          [.acted (bubble.fill scene.id (block.text "text") duration)])
  | spoken (bubble : Bubble) (seconds duration : Float)
      (asked : block.speech? = some (bubble, seconds)) (brief : ¬0.0 < duration)
      (measured : duration = Bubble.duration seconds) :
      Opening scene block
        (.ok scene.pause,
          [.acted (bubble.fill scene.id (block.text "text") duration),
            .acted (bubble.clear scene.id)])

variable {scene : Scene} {block : Block}

theorem opening_animate {sprite : Sprite} {motion : Motion Float32} {duration : Float}
    (found : scene.sprite? = some sprite) (asked : block.motion? sprite.stance = some motion)
    (timed : scene.settings.duration? block.kind = some duration) :
    Opening scene block
      (scene.animate block motion.target.isFinite motion duration, []) := by
  cases reachable : motion.target.isFinite with
  | true => exact .moving sprite motion duration found asked reachable timed
  | false => exact .unreachable sprite motion found asked reachable

theorem readNumber_ok {name : String} {value : Float} (read : block.number name = .ok value) :
    readNumber block name = (some value, []) := by
  simp [readNumber, read]

theorem readNumber_error {name : String} {fault : Fault}
    (unread : block.number name = .error fault) :
    readNumber block name = (none, [.blockSkipped block.kind fault]) := by
  simp [readNumber, unread]

theorem readNumber_isSkip (block : Block) (name : String) :
    ∀ event ∈ (readNumber block name).2, event.isSkip := by
  intro event member
  rw [readNumber] at member
  split at member
  · cases member
  · rw [List.mem_singleton.mp member]
    rfl

theorem opening_speak {bubble : Bubble} {seconds : Float}
    (read : block.number "seconds" = .ok seconds)
    (asked : block.speech? = some (bubble, seconds)) :
    Opening scene block (speak scene block bubble) := by
  simp only [speak, readNumber_ok read]
  generalize same : (if 0.0 < seconds * 1000.0 then seconds * 1000.0 else 0.0) = duration
  have measured : duration = Bubble.duration seconds := same.symm
  by_cases lasting : 0.0 < duration
  · rw [if_pos lasting]
    exact .speaking bubble seconds duration asked lasting measured
  · rw [if_neg lasting]
    exact .spoken bubble seconds duration asked lasting measured

private theorem opening_moveSteps (kind : block.kind = .moveSteps) :
    Opening scene block (startAlone scene block) := by
  have silent : block.speech? = none := by simp [Block.speech?, kind]
  cases read : block.number "steps" with
  | error fault =>
      have still (stance : Stance) : block.motion? stance = none := by
        simp [Block.motion?, kind, read]
      simp only [startAlone, kind, readNumber_error read]
      exact .idle _ (by simp [Event.isSkip]) silent fun sprite _ => still sprite.stance
  | ok steps =>
      simp only [startAlone, kind, readNumber_ok read]
      cases found : scene.sprite? with
      | none => exact .idle [] (by simp) silent (by simp [found])
      | some sprite =>
          have asked : block.motion? sprite.stance = some (.slide sprite.position
              (sprite.position.advance (Heading.direction sprite.rotation)
                (Number.single steps))) := by
            simp [Block.motion?, kind, read, Sprite.stance]
          exact opening_animate found asked (congrArg _ kind)

private theorem opening_turnDegrees (kind : block.kind = .turnDegrees) :
    Opening scene block (startAlone scene block) := by
  have silent : block.speech? = none := by simp [Block.speech?, kind]
  cases read : block.number "degrees" with
  | error fault =>
      have still (stance : Stance) : block.motion? stance = none := by
        simp [Block.motion?, kind, read]
      simp only [startAlone, kind, readNumber_error read]
      exact .idle _ (by simp [Event.isSkip]) silent fun sprite _ => still sprite.stance
  | ok degrees =>
      simp only [startAlone, kind, readNumber_ok read]
      cases found : scene.sprite? with
      | none => exact .idle [] (by simp) silent (by simp [found])
      | some sprite =>
          have asked : block.motion? sprite.stance =
              some (.spin sprite.rotation (sprite.rotation + Number.single degrees)) := by
            simp [Block.motion?, kind, read, Sprite.stance]
          exact opening_animate found asked (congrArg _ kind)

private theorem opening_goToXY (kind : block.kind = .goToXY) :
    Opening scene block (startAlone scene block) := by
  have silent : block.speech? = none := by simp [Block.speech?, kind]
  have idle (trace : Trace) (told : ∀ event ∈ trace, event.isSkip)
      (still : ∀ stance, block.motion? stance = none) :
      Opening scene block (.ok scene.pause, trace) :=
    .idle trace told silent fun sprite _ => still sprite.stance
  cases readX : block.number "x" with
  | error fault =>
      simp only [startAlone, kind, readNumber_error readX]
      refine idle _ ?_ fun stance => by simp [Block.motion?, kind, readX]
      intro event member
      rcases List.mem_append.mp member with inX | inY
      · rw [List.mem_singleton.mp inX]
        rfl
      · exact readNumber_isSkip block "y" event inY
  | ok x =>
      cases readY : block.number "y" with
      | error fault =>
          simp only [startAlone, kind, readNumber_ok readX, readNumber_error readY]
          exact idle _ (by simp [Event.isSkip]) fun stance => by
            simp [Block.motion?, kind, readX, readY]
      | ok y =>
          simp only [startAlone, kind, readNumber_ok readX, readNumber_ok readY]
          cases found : scene.sprite? with
          | none => exact .idle _ (by simp) silent (by simp [found])
          | some sprite =>
              have asked : block.motion? sprite.stance =
                  some (.slide sprite.position ⟨Number.single x, Number.single y⟩) := by
                simp [Block.motion?, kind, readX, readY, Sprite.stance]
              exact opening_animate found asked (congrArg _ kind)

private theorem opening_bubble {bubble : Bubble}
    (shown : block.speech? =
      (block.number "seconds").toOption.map fun seconds => (bubble, seconds))
    (still : ∀ stance, block.motion? stance = none) :
    Opening scene block (speak scene block bubble) := by
  cases read : block.number "seconds" with
  | error fault =>
      rw [read] at shown
      simp only [speak, readNumber_error read]
      exact .idle _ (by simp [Event.isSkip]) shown fun sprite _ => still sprite.stance
  | ok seconds =>
      rw [read] at shown
      exact opening_speak read shown

theorem startAlone_opening (scene : Scene) (block : Block) :
    Opening scene block (startAlone scene block) := by
  cases kind : block.kind with
  | moveSteps => exact opening_moveSteps kind
  | turnDegrees => exact opening_turnDegrees kind
  | goToXY => exact opening_goToXY kind
  | repeatTimes =>
      simp only [startAlone, kind]
      exact .idle _ (readNumber_isSkip block "times") (by simp [Block.speech?, kind])
        fun _ _ => by simp [Block.motion?, kind]
  | say =>
      simp only [startAlone, kind]
      exact opening_bubble (by simp [Block.speech?, kind]) fun _ => by simp [Block.motion?, kind]
  | think =>
      simp only [startAlone, kind]
      exact opening_bubble (by simp [Block.speech?, kind]) fun _ => by simp [Block.motion?, kind]

/-! ## Any block -/

/-- How a block starts that may be entered: a repeat block with a round to go puts
its children on top of the frames, and the first of them starts at once. -/
inductive Starting (scene : Scene) : List Frame → Block → Started → Prop
  | alone (frames : List Frame) (block : Block) (wait : Except Fault Wait) (trace : Trace)
      (single : block.isEntered = false) (opening : Opening scene block (wait, trace)) :
      Starting scene frames block ⟨frames, wait, .blockStarted scene.id block :: trace⟩
  | entered (frames : List Frame) (head : Block.Head) (first : Block) (rest : List Block)
      (inner : Started)
      (going : 0 < Block.rounds (.container head (first :: rest)))
      (starting : Starting scene
        (⟨first :: rest, rest, Block.rounds (.container head (first :: rest))⟩ :: frames)
        first inner) :
      Starting scene frames (.container head (first :: rest))
        { inner with
          trace := .blockStarted scene.id (.container head (first :: rest)) :: inner.trace }

theorem start_starting (scene : Scene) : ∀ (frames : List Frame) (block : Block),
    Starting scene frames block (start scene frames block)
  | frames, .plain head => by
      rw [start]
      exact .alone frames _ _ _ rfl (startAlone_opening scene _)
  | frames, .container head [] => by
      rw [start]
      exact .alone frames _ _ _ rfl (startAlone_opening scene _)
  | frames, .container head (first :: rest) => by
      rw [start]
      split
      · next going =>
          have rounds : Block.rounds (.container head (first :: rest)) =
              Block.passes (.container head (first :: rest)) := if_pos going.1
          rw [← rounds] at going ⊢
          exact .entered frames head first rest _ going.2 (start_starting scene _ first)
      · next skipped =>
          refine .alone frames _ _ _ ?_ (startAlone_opening scene _)
          by_cases kind : head.kind = .repeatTimes
          · have none : Block.passes (.container head (first :: rest)) = 0 :=
              Nat.eq_zero_of_not_pos fun positive => skipped ⟨kind, positive⟩
            simp [Block.isEntered, Block.rounds, none]
          · simp [Block.isEntered, Block.rounds, Block.kind, Block.head, kind]

end Run

end SpriteScript
