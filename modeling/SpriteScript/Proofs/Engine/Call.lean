import SpriteScript.Proofs.Engine.Advance
import SpriteScript.Proofs.Engine.Launch

namespace SpriteScript.Engine

/-! The calls of an engine: what they leave of the stage, of the runs and of their order. -/

inductive Call
  | run (id : SpriteId) (now : Float)
  | advance (now : Float)
  | stop (id : SpriteId)
  | stopAll

def perform (engine : Engine) (stage : Stage) : Call → Turn Engine Unit
  | .run id now => { engine.run stage id now with answer := () }
  | .advance now => { engine.advance stage now with answer := () }
  | .stop id => ⟨engine.stop id, stage, (), []⟩
  | .stopAll => ⟨engine.stopAll, stage, (), []⟩

variable {engine : Engine} {stage : Stage}

/-! ## The stage -/

theorem opening_isOwn (id : SpriteId) (sprite : Sprite) : (opening id sprite).IsOwn id := by
  intro event member
  simp only [opening, List.mem_cons, List.not_mem_nil, or_false] at member
  rcases member with told | switched
  · simp [told, Event.isOwn, Event.sprite?]
  · simp [switched, Event.isOwn, Event.sprite?, Action.sprite?]

theorem driveAll_isNamed (settings : Settings) (now : Float) (stage : Stage)
    (runs : List (SpriteId × Run)) : (driveAll settings now stage runs).trace.IsNamed := by
  induction runs generalizing stage with
  | nil => exact List.forall_mem_nil _
  | cons entry rest induction =>
      rcases entry with ⟨id, run⟩
      simp only [driveAll_cons]
      exact (run.report_isOwn _).isNamed.append (induction _)

theorem advance_isNamed (engine : Engine) (stage : Stage) (now : Float) :
    (engine.advance stage now).trace.IsNamed := by
  simp only [advance]
  refine (driveAll_isNamed _ _ _ _).append ?_
  intro action finished
  rcases List.mem_flatMap.mp (Trace.mem_actions.mp finished) with ⟨id, _, told⟩
  exact (finish_isOwn id).isNamed action (Trace.mem_actions.mpr told)

theorem Launching.stage_eq {id : SpriteId} {now : Float} {turn : Turn Engine Bool}
    (launching : Launching engine stage id now turn) :
    turn.stage = stage.replay turn.trace ∧ turn.trace.IsNamed := by
  cases launching with
  | missing => exact ⟨rfl, List.forall_mem_nil _⟩
  | refused => exact ⟨rfl, List.forall_mem_nil _⟩
  | launched sprite leg found resting filled free first =>
      refine ⟨rfl, ((opening_isOwn id sprite).append ?_).isNamed⟩
      rw [first]
      exact Run.leg_isOwn _ _

/-- A call changes the stage by its trace alone, and all that an engine does names a
sprite. -/
theorem perform_stage (engine : Engine) (stage : Stage) (call : Call) :
    (engine.perform stage call).stage = stage.replay (engine.perform stage call).trace ∧
      (engine.perform stage call).trace.IsNamed := by
  cases call with
  | run id now => exact (run_launching engine stage id now).stage_eq
  | advance now => exact ⟨advance_stage stage now, advance_isNamed engine stage now⟩
  | stop id => exact ⟨rfl, List.forall_mem_nil _⟩
  | stopAll => exact ⟨rfl, List.forall_mem_nil _⟩

theorem sprite?_perform (engine : Engine) (stage : Stage) (call : Call) (id : SpriteId) :
    (engine.perform stage call).stage.sprite? id = (stage.sprite? id).map fun sprite =>
      sprite.perform ((engine.perform stage call).trace.about id).actions := by
  have done := perform_stage engine stage call
  rw [done.1, Stage.sprite?_replay stage done.2.noTrade]

/-! ## The runs -/

theorem Launching.ordered {id : SpriteId} {now : Float} {turn : Turn Engine Bool}
    (launching : Launching engine stage id now turn) (ordered : engine.Ordered) :
    turn.actor.Ordered := by
  cases launching with
  | missing => exact ordered
  | refused => exact ordered
  | launched => exact join_ordered ordered _

theorem perform_ordered (ordered : engine.Ordered) (stage : Stage) (call : Call) :
    (engine.perform stage call).actor.Ordered := by
  cases call with
  | run id now => exact (run_launching engine stage id now).ordered ordered
  | advance now => exact advance_ordered stage now ordered
  | stop id => exact stop_ordered ordered id
  | stopAll => exact stopAll_ordered ordered

theorem Launching.of_ne {id other : SpriteId} {now : Float} {turn : Turn Engine Bool}
    (launching : Launching engine stage other now turn) (different : id ≠ other) :
    turn.actor.runOf? id = engine.runOf? id ∧ turn.trace.about id = [] := by
  cases launching with
  | missing => exact ⟨rfl, rfl⟩
  | refused => exact ⟨rfl, rfl⟩
  | launched sprite leg found resting filled free first =>
      have absent := isRunning_eq_false_iff.mp free
      have own : Trace.IsOwn (opening other sprite ++ leg.trace) other := by
        rw [first]
        exact (opening_isOwn other sprite).append (Run.leg_isOwn _ _)
      refine ⟨?_, own.about_of_ne different⟩
      rw [runOf?_join absent, if_neg fun same => different same.symm]

/-! ## The settings -/

theorem Launching.settings {id : SpriteId} {now : Float} {turn : Turn Engine Bool}
    (launching : Launching engine stage id now turn) : turn.actor.settings = engine.settings := by
  cases launching with
  | missing => rfl
  | refused => rfl
  | launched sprite leg => cases leg.run? <;> rfl

theorem perform_settings (engine : Engine) (stage : Stage) (call : Call) :
    (engine.perform stage call).actor.settings = engine.settings := by
  cases call with
  | run id now => exact (run_launching engine stage id now).settings
  | advance now => rfl
  | stop id => rfl
  | stopAll => rfl

end SpriteScript.Engine
