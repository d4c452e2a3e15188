import SpriteScript.Proofs.Run.Bounds
import SpriteScript.Proofs.Session.Basic

namespace SpriteScript

/-! The bounds of a drive hold for all runs of a session, since an engine starts no run without
a block. -/

namespace Run

theorem leg_reachable {run : Run} {scene : Scene} (reachable : run.Reachable) {next : Run}
    (left : (run.leg scene).run? = some next) : next.Reachable := by
  by_cases going : (run.drive scene).status = .going
  · rw [leg_of_going going] at left
    cases left
    exact .driven run scene reachable going
  · rw [leg_of_not_going going] at left
    cases left

end Run

namespace Engine

def AreReachable (engine : Engine) : Prop :=
  ∀ id run, engine.runOf? id = some run → run.Reachable

theorem Share.Step.reachable {settings : Settings} {id : SpriteId} {share next : Share}
    {trace : Trace} (step : Share.Step settings id share trace next)
    (reachable : ∀ run, share.run? = some run → run.Reachable) :
    ∀ run, next.run? = some run → run.Reachable := by
  intro run left
  cases step with
  | untouched => exact reachable run left
  | marked marked sprite? =>
      cases left
      exact .marked marked (reachable marked rfl)
  | driven driven sprite? now leg drive =>
      rw [drive] at left
      exact Run.leg_reachable (reachable driven rfl) left
  | launched sprite now leg resting filled drive =>
      rw [drive] at left
      exact Run.leg_reachable (.begun sprite.program filled) left

theorem perform_areReachable {engine : Engine} (ordered : engine.Ordered)
    (reachable : engine.AreReachable) (stage : Stage) (call : Call) :
    (engine.perform stage call).actor.AreReachable :=
  fun id => (perform_step ordered stage call id).reachable (reachable id)

end Engine

namespace Session

variable {session : Session}

theorem perform_areReachable (ordered : session.engine.Ordered)
    (reachable : session.engine.AreReachable) (call : Call) :
    (session.perform call).engine.AreReachable := by
  cases call with
  | engine call => exact Engine.perform_areReachable ordered reachable session.stage call
  | detector call => exact reachable
  | edit edit => exact reachable

theorem Reached.areReachable (reached : session.Reached) : session.engine.AreReachable := by
  rcases reached with ⟨settings, stage, detector, calls, same⟩
  rw [same]
  have begun : (begin settings stage detector).engine.Ordered ∧
      (begin settings stage detector).engine.AreReachable := ⟨.nil, nofun⟩
  exact (after_of_perform (motive := fun session =>
      session.engine.Ordered ∧ session.engine.AreReachable)
    (fun holds (_ : True) => ⟨perform_ordered holds.1 _, perform_areReachable holds.1 holds.2 _⟩)
    begun fun _ _ => trivial).2

end Session

end SpriteScript
