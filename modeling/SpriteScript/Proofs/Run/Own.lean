import SpriteScript.Proofs.Run.Driving
import SpriteScript.Proofs.Stage.Subject

namespace SpriteScript

/-! A run keeps to its own sprite: every event of a drive is about that sprite or
tells of a skipped block, and none switches a running flag. -/

def Event.isOfRun (id : SpriteId) : Event → Bool
  | .acted (.setRunning _ _) => false
  | event => event.isOwn id

theorem Event.isOwn_of_isOfRun {id : SpriteId} {event : Event} (holds : event.isOfRun id) :
    event.isOwn id := by
  cases event with
  | acted action => cases action <;> simp_all [Event.isOfRun]
  | _ => exact holds

namespace Trace

def IsOfRun (trace : Trace) (id : SpriteId) : Prop := ∀ event ∈ trace, event.isOfRun id

theorem IsOfRun.isOwn {trace : Trace} {id : SpriteId} (ofRun : trace.IsOfRun id) :
    trace.IsOwn id :=
  fun event member => Event.isOwn_of_isOfRun (ofRun event member)

theorem IsOfRun.switches_eq_nil {trace : Trace} {id : SpriteId} (ofRun : trace.IsOfRun id) :
    trace.switches = [] := by
  apply List.filterMap_eq_nil_iff.mpr
  intro action member
  have holds := ofRun _ (mem_actions.mp member)
  cases action <;> simp_all [Event.isOfRun, Action.switch?]

end Trace

namespace Run

theorem fill_isOfRun (bubble : Bubble) (id : SpriteId) (text : String) (duration : Float) :
    (Event.acted (bubble.fill id text duration)).isOfRun id := by
  cases bubble <;> simp [Bubble.fill, Event.isOfRun, Event.isOwn, Event.sprite?, Action.sprite?]

theorem clear_isOfRun (bubble : Bubble) (id : SpriteId) :
    (Event.acted (bubble.clear id)).isOfRun id := by
  cases bubble <;> simp [Bubble.clear, Event.isOfRun, Event.isOwn, Event.sprite?, Action.sprite?]

theorem toAction_isOfRun (pose : Pose Float32) (id : SpriteId) :
    (Event.acted (pose.toAction id)).isOfRun id := by
  cases pose <;> simp [Pose.toAction, Event.isOfRun, Event.isOwn, Event.sprite?, Action.sprite?]

theorem Opening.isOfRun {scene : Scene} {block : Block} {wait : Except Fault Wait}
    {trace : Trace} (opening : Opening scene block (wait, trace)) : trace.IsOfRun scene.id := by
  intro event member
  cases opening with
  | idle _ told =>
      have skip := told event member
      cases event <;> simp_all [Event.isSkip, Event.isOfRun, Event.isOwn]
  | moving => cases member
  | unreachable => cases member
  | speaking bubble =>
      rw [List.mem_singleton.mp member]
      exact fill_isOfRun bubble scene.id _ _
  | spoken bubble =>
      rcases List.mem_cons.mp member with filled | cleared
      · rw [filled]
        exact fill_isOfRun bubble scene.id _ _
      · rw [List.mem_singleton.mp cleared]
        exact clear_isOfRun bubble scene.id

theorem Starting.isOfRun {scene : Scene} {frames : List Frame} {block : Block}
    {started : Started} (starting : Starting scene frames block started) :
    started.trace.IsOfRun scene.id := by
  have blockStarted (block : Block) : (Event.blockStarted scene.id block).isOfRun scene.id := by
    simp [Event.isOfRun, Event.isOwn, Event.sprite?]
  induction starting with
  | alone frames block wait trace single opening =>
      exact List.forall_mem_cons.mpr ⟨blockStarted block, opening.isOfRun⟩
  | entered frames head first rest inner going starting induction =>
      exact List.forall_mem_cons.mpr ⟨blockStarted _, induction⟩

theorem abandon_isOfRun (run : Run) (id : SpriteId) : (run.abandon id).IsOfRun id := by
  rw [abandon]
  split
  · next bubble _ _ => exact List.forall_mem_singleton.mpr (clear_isOfRun bubble id)
  · exact List.forall_mem_nil _

theorem Driving.isOfRun {run : Run} {scene : Scene} {driven : Driven}
    (driving : Driving run scene driven) : driven.trace.IsOfRun scene.id := by
  have silent : Trace.IsOfRun [] scene.id := List.forall_mem_nil _
  cases driving with
  | cancelled =>
      refine List.forall_mem_cons.mpr ⟨?_, run.abandon_isOfRun scene.id⟩
      simp [Event.isOfRun, Event.isOwn, Event.sprite?]
  | started _ _ _ _ _ _ _ starting => exact starting.isOfRun
  | failed _ _ _ _ _ _ _ starting => exact starting.isOfRun
  | passesDone => exact silent
  | programDone => exact silent
  | sampled tween =>
      exact List.forall_mem_singleton.mpr (toAction_isOfRun (tween.sample scene.now) scene.id)
  | cleared bubble => exact List.forall_mem_singleton.mpr (clear_isOfRun bubble scene.id)
  | waiting => exact silent

end Run

end SpriteScript
