import SpriteScript.Proofs.Engine.Leg
import SpriteScript.Proofs.Run.Unfolding

namespace SpriteScript

/-! Where a run is bound for. A look and what a run still has to do name the look
that the run leads to in the end, and no drive changes that look, at whatever time
it comes. So samples on the way and the times of frames leave no mark. -/

/-! ## Actions -/

def Look.pose (look : Look) (pose : Pose Float32) : Look :=
  { look with toStance := look.toStance.pose pose }

namespace Sprite

theorem look_toAction (sprite : Sprite) (pose : Pose Float32) (id : SpriteId) :
    ((pose.toAction id).change sprite).look = sprite.look.pose pose := by
  cases pose <;> rfl

theorem look_clear (sprite : Sprite) (bubble : Bubble) (id : SpriteId) :
    ((bubble.clear id).change sprite).look = sprite.look.clear bubble := by
  cases bubble <;> rfl

theorem look_fill (sprite : Sprite) (bubble : Bubble) (id : SpriteId) (text : String)
    (duration : Float) :
    ((bubble.fill id text duration).change sprite).look.clear bubble =
      sprite.look.clear bubble := by
  cases bubble <;> rfl

end Sprite

namespace Run

/-! ## The destination -/

def Wait.settle (wait : Wait) (look : Look) : Look :=
  match wait with
  | .animating tween => look.pose tween.motion.target
  | .speaking bubble _ => look.clear bubble
  | .ready | .pacing _ => look

def destination (run : Run) (look : Look) : Look :=
  (run.wait.settle look).afterAll run.remaining

def destinationOf : Option Run → Look → Look
  | some run, look => run.destination look
  | none, look => look

theorem destination_ofProgram (program : List Block) (look : Look) :
    (ofProgram program).destination look = look.afterAll (Block.unfolds program) := by
  rw [destination, remaining_ofProgram]
  rfl

theorem destination_of_isOver {run : Run} {now : Float} (waited : run.wait.isOver now)
    (look : Look) : run.destination look = look.afterAll run.remaining := by
  rw [destination]
  cases wait : run.wait with
  | ready => rfl
  | pacing deadline => rfl
  | animating tween =>
      rw [wait] at waited
      cases waited
  | speaking bubble deadline =>
      rw [wait] at waited
      cases waited

theorem settle_sample (tween : Tween Float Float32) (now : Float) (look : Look) :
    (Wait.animating tween).settle (look.pose (tween.sample now)) =
      (Wait.animating tween).settle look := by
  simp only [Wait.settle, Tween.sample]
  cases tween.motion with
  | slide source target => split <;> rfl
  | spin source target => split <;> rfl

/-! ## The start of a block -/

variable {scene : Scene} {sprite : Sprite} {block : Block}

theorem Look.after?_of_motion? {look : Look} {motion : Motion Float32}
    (asked : block.motion? look.toStance = some motion) :
    look.after? block =
      if motion.target.isFinite then some (look.pose motion.target) else none := by
  have silent := Block.speech?_of_motion? asked
  simp only [Look.after?, silent, Stance.after?, asked]
  split
  · rfl
  · rfl

theorem Opening.after?_of_ok {wait : Wait} {trace : Trace}
    (opening : Opening scene block (.ok wait, trace)) (found : scene.sprite? = some sprite) :
    sprite.look.after? block = some (wait.settle (sprite.perform trace.actions).look) := by
  cases opening with
  | idle _ told silent still =>
      have quiet : trace.actions = [] := Trace.actions_of_isSkip told
      have unmoved : block.motion? sprite.look.toStance = none := still sprite found
      simp only [Look.after?, silent, Stance.after?, unmoved, quiet]
      rfl
  | moving other motion duration same asked reachable =>
      rw [found] at same
      cases same
      rw [Look.after?_of_motion? asked, if_pos reachable]
      rfl
  | speaking bubble seconds duration asked lasting =>
      have cleared := sprite.look_fill bubble scene.id (block.text "text") duration
      simp only [Look.after?, asked, Trace.actions, Event.action?, List.filterMap_cons,
        List.filterMap_nil, Sprite.perform_cons, Sprite.perform_nil, Wait.settle, cleared]
  | spoken bubble seconds duration asked brief =>
      have cleared := sprite.look_fill bubble scene.id (block.text "text") duration
      simp only [Look.after?, asked, Trace.actions, Event.action?, List.filterMap_cons,
        List.filterMap_nil, Sprite.perform_cons, Sprite.perform_nil, Scene.pause, Wait.settle,
        Sprite.look_clear, cleared]

theorem Opening.after?_of_error {fault : Fault} {trace : Trace}
    (opening : Opening scene block (.error fault, trace)) (found : scene.sprite? = some sprite) :
    sprite.look.after? block = none ∧ trace.actions = [] := by
  cases opening with
  | unreachable other motion same asked beyond =>
      rw [found] at same
      cases same
      rw [Look.after?_of_motion? asked, if_neg (by simp [beyond])]
      exact ⟨rfl, rfl⟩

theorem after?_of_rounds (look : Look) {block : Block} (going : 0 < block.rounds) :
    look.after? block = some look := by
  have kind := Block.kind_of_rounds going
  simp [Look.after?, Block.speech?, Stance.after?, Block.motion?, kind]

theorem Starting.afterAll_of_ok {frames : List Frame} {started : Started}
    (starting : Starting scene frames block started) (found : scene.sprite? = some sprite)
    {wait : Wait} (waits : started.wait = .ok wait) :
    (wait.settle (sprite.perform started.trace.actions).look).afterAll
        (Run.remainingIn started.frames) =
      sprite.look.afterAll (block.unfold ++ Run.remainingIn frames) := by
  induction starting with
  | alone frames block result trace single opening =>
      cases waits
      rw [Block.unfold_of_not_isEntered single, List.singleton_append, Look.afterAll,
        opening.after?_of_ok found]
      rfl
  | entered frames head first rest inner going starting induction =>
      rw [unfold_of_rounds frames going, Look.afterAll, after?_of_rounds _ going]
      exact induction waits

theorem Starting.afterAll_of_error {frames : List Frame} {started : Started}
    (starting : Starting scene frames block started) (found : scene.sprite? = some sprite)
    {fault : Fault} (fails : started.wait = .error fault) :
    sprite.look.afterAll (block.unfold ++ Run.remainingIn frames) = sprite.look ∧
      started.trace.actions = [] := by
  induction starting with
  | alone frames block result trace single opening =>
      cases fails
      rcases opening.after?_of_error found with ⟨stuck, quiet⟩
      rw [Block.unfold_of_not_isEntered single, List.singleton_append, Look.afterAll, stuck]
      exact ⟨rfl, quiet⟩
  | entered frames head first rest inner going starting induction =>
      rw [unfold_of_rounds frames going, Look.afterAll, after?_of_rounds _ going]
      exact induction fails

/-! ## A drive -/

theorem Driving.destination_of_going {run : Run} {driven : Driven}
    (driving : Driving run scene driven) (found : scene.sprite? = some sprite)
    (going : driven.status = .going) :
    driven.run.destination (sprite.perform driven.trace.actions).look =
      run.destination sprite.look := by
  cases driving with
  | cancelled => cases going
  | started block frames started wait free waited next starting waits =>
      rw [destination_of_isOver waited, remaining, remainingIn_next_block next]
      exact starting.afterAll_of_ok found waits
  | failed => cases going
  | passesDone frames free waited next =>
      rw [destination_of_isOver waited, remaining, remainingIn_next_passesDone next]
      rfl
  | programDone => cases going
  | sampled tween free moving =>
      apply congrArg (Look.afterAll · run.remaining)
      have sampled := sprite.look_toAction (tween.sample scene.now) scene.id
      simp only [Trace.actions, Event.action?, List.filterMap_cons, List.filterMap_nil,
        Sprite.perform_cons, Sprite.perform_nil, sampled, moving]
      split
      · next done =>
          -- The last sample is the target itself.
          rw [Tween.sample, if_pos done]
          rfl
      · exact settle_sample tween scene.now sprite.look
  | cleared bubble deadline free speaking late =>
      have silenced := sprite.look_clear bubble scene.id
      rw [Run.destination, Run.destination, speaking, Wait.settle, ← silenced]
      rfl
  | waiting => rfl

theorem Driving.look_of_over {run : Run} {driven : Driven} (driving : Driving run scene driven)
    (found : scene.sprite? = some sprite) (free : run.isCancelled = false)
    (ends : driven.status ≠ .going) :
    (sprite.perform driven.trace.actions).look = run.destination sprite.look := by
  cases driving with
  | cancelled marked =>
      rw [marked] at free
      cases free
  | failed block frames started fault _ ready next starting fails =>
      rcases starting.afterAll_of_error found fails with ⟨stays, quiet⟩
      rw [destination_of_isOver ready, remaining, remainingIn_next_block next, stays, quiet]
      rfl
  | programDone _ ready next =>
      rw [destination_of_isOver ready, remaining, remainingIn_next_programDone next]
      rfl
  | _ => exact absurd rfl ends

/-! ## A leg -/

/-- A leg keeps the destination, and a run that is over has come to it. -/
theorem leg_destination {run : Run} (found : scene.sprite? = some sprite)
    (free : run.isCancelled = false) :
    destinationOf (run.leg scene).run?
        (sprite.perform ((run.leg scene).trace.about scene.id).actions).look =
      run.destination sprite.look := by
  have driving := run.drive_driving scene
  rw [(run.leg_isOwn scene).actions_about]
  by_cases going : (run.drive scene).status = .going
  · rw [leg_of_going going]
    exact driving.destination_of_going found going
  · rw [leg_of_not_going going, Trace.actions_append, Trace.actions_append,
      Engine.actions_failure, List.append_nil, Sprite.perform_append,
      ← driving.look_of_over found free going]
    rfl

end Run

end SpriteScript
