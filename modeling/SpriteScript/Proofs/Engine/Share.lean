import SpriteScript.Proofs.Engine.Call
import SpriteScript.Proofs.Run.Sight

namespace SpriteScript.Engine

/-! What a call of an engine is to one sprite. It follows from the share that the sprite
has before, and the other sprites have no part in it. -/

structure Share where
  run? : Option Run
  sprite? : Option Sprite

def share (engine : Engine) (stage : Stage) (id : SpriteId) : Share :=
  ⟨engine.runOf? id, stage.sprite? id⟩

variable {engine : Engine} {stage : Stage}

theorem share_perform (engine : Engine) (stage : Stage) (call : Call) (id : SpriteId) :
    (engine.perform stage call).actor.share (engine.perform stage call).stage id =
      ⟨(engine.perform stage call).actor.runOf? id, (stage.sprite? id).map fun sprite =>
        sprite.perform ((engine.perform stage call).trace.about id).actions⟩ := by
  rw [share, sprite?_perform]

/-! ## A call that does not start the run -/

namespace Share

def leg (share : Share) (settings : Settings) (id : SpriteId) : Call → Run.Leg
  | .run _ _ => ⟨share.run?, []⟩
  | .advance now =>
      match share.run? with
      | none => ⟨none, []⟩
      | some run =>
          let leg := run.leg ⟨settings, id, share.sprite?, now⟩
          { leg with trace := leg.trace.about id }
  | .stop other => ⟨share.run?.map fun run => if id = other then run.cancel else run, []⟩
  | .stopAll => ⟨share.run?.map Run.cancel, []⟩

theorem leg_congr (left right : Share) (runs : left.run? = right.run?)
    (stances : left.sprite?.map Sprite.stance = right.sprite?.map Sprite.stance)
    (settings : Settings) (id : SpriteId) (call : Call) :
    left.leg settings id call = right.leg settings id call := by
  cases call with
  | advance now => simp only [leg, runs, Run.leg_of_stance stances]
  | _ => simp only [leg, runs]

theorem leg_of_none {share : Share} (idle : share.run? = none) (settings : Settings)
    (id : SpriteId) (call : Call) : share.leg settings id call = ⟨none, []⟩ := by
  cases call <;> simp [leg, idle]

end Share

theorem perform_leg (ordered : engine.Ordered) (stage : Stage) {id : SpriteId} {call : Call}
    (notRun : ∀ now, call ≠ .run id now) :
    let leg := (engine.share stage id).leg engine.settings id call
    (engine.perform stage call).actor.runOf? id = leg.run? ∧
      (engine.perform stage call).trace.about id = leg.trace := by
  cases call with
  | run other now =>
      have different : id ≠ other := fun same => notRun now (same ▸ rfl)
      exact (run_launching engine stage other now).of_ne different
  | advance now =>
      simp only [perform, Share.leg, share]
      cases found : engine.runOf? id with
      | none =>
          rcases advance_of_none stage now ordered found with ⟨silent, idle, _⟩
          exact ⟨idle, silent⟩
      | some run =>
          rcases advance_of_some stage now ordered found with ⟨told, left, _⟩
          exact ⟨left, told⟩
  | stop other => exact ⟨engine.runOf?_stop other id, rfl⟩
  | stopAll => exact ⟨engine.runOf?_stopAll id, rfl⟩

theorem perform_of_none (ordered : engine.Ordered) (stage : Stage) {id : SpriteId}
    (idle : engine.runOf? id = none) (call : Call) (notRun : ∀ now, call ≠ .run id now) :
    (engine.perform stage call).actor.runOf? id = none ∧
      (engine.perform stage call).trace.about id = [] := by
  have nothing : (engine.share stage id).leg engine.settings id call = ⟨none, []⟩ :=
    Share.leg_of_none idle ..
  have untouched := perform_leg ordered stage notRun
  rw [nothing] at untouched
  exact untouched

/-! ## Any call -/

/-- What a call is to one sprite: nothing, a mark on its run, a leg of its run, or
the launch of a run with its first leg. -/
inductive Share.Step (settings : Settings) (id : SpriteId) : Share → Trace → Share → Prop
  | untouched (share : Share) : Step settings id share [] share
  | marked (run : Run) (sprite? : Option Sprite) :
      Step settings id ⟨some run, sprite?⟩ [] ⟨some run.cancel, sprite?⟩
  | driven (run : Run) (sprite? : Option Sprite) (now : Float) (leg : Run.Leg)
      (drive : leg = run.leg ⟨settings, id, sprite?, now⟩) :
      Step settings id ⟨some run, sprite?⟩ (leg.trace.about id)
        ⟨leg.run?, sprite?.map fun sprite => sprite.perform (leg.trace.about id).actions⟩
  | launched (sprite : Sprite) (now : Float) (leg : Run.Leg) (resting : sprite.isRunning = false)
      (filled : sprite.program ≠ [])
      (drive : leg = (Run.ofProgram sprite.program).leg
        ⟨settings, id, some { sprite with isRunning := true }, now⟩) :
      Step settings id ⟨none, some sprite⟩ (opening id sprite ++ leg.trace.about id)
        ⟨leg.run?, some (sprite.perform (opening id sprite ++ leg.trace.about id).actions)⟩

theorem Share.leg_step (share : Share) (settings : Settings) (id : SpriteId) (call : Call) :
    let leg := share.leg settings id call
    Step settings id share leg.trace
      ⟨leg.run?, share.sprite?.map fun sprite => sprite.perform leg.trace.actions⟩ := by
  rcases share with ⟨run?, sprite?⟩
  have kept : sprite?.map (fun sprite => sprite.perform (Trace.actions [])) = sprite? :=
    Option.map_id'
  cases run? with
  | none =>
      simp only [leg_of_none, kept]
      exact .untouched _
  | some run =>
      cases call with
      | run other now =>
          simp only [leg, kept]
          exact .untouched _
      | advance now => exact .driven run sprite? now _ rfl
      | stop other =>
          simp only [leg, kept, Option.map_some]
          split
          · exact .marked run sprite?
          · exact .untouched _
      | stopAll =>
          simp only [leg, kept]
          exact .marked run sprite?

theorem Share.Step.of_some {settings : Settings} {id : SpriteId} {share next : Share}
    {trace : Trace} (step : Share.Step settings id share trace next) {run : Run}
    (found : share.run? = some run) :
    (trace = [] ∧ next.sprite? = share.sprite? ∧
        (next.run? = some run ∨ next.run? = some run.cancel)) ∨
      ∃ now, let leg := run.leg ⟨settings, id, share.sprite?, now⟩
        trace = leg.trace.about id ∧ next.run? = leg.run? ∧
          next.sprite? = share.sprite?.map fun sprite => sprite.perform trace.actions := by
  cases step with
  | untouched => exact .inl ⟨rfl, rfl, .inl found⟩
  | marked marked sprite? =>
      cases found
      exact .inl ⟨rfl, rfl, .inr rfl⟩
  | driven driven sprite? now leg drive =>
      cases found
      rw [drive]
      exact .inr ⟨now, rfl, rfl, rfl⟩
  | launched => cases found

/-! ## The start of the run -/

theorem about_opening (id : SpriteId) (sprite : Sprite) :
    (opening id sprite).about id = opening id sprite := by
  simp [opening, Trace.about, Event.sprite?, Action.sprite?]

theorem sprite?_replay_opening {id : SpriteId} {sprite : Sprite}
    (found : stage.sprite? id = some sprite) :
    (stage.replay (opening id sprite)).sprite? id = some { sprite with isRunning := true } := by
  rw [Stage.sprite?_replay stage (opening_isOwn id sprite).noTrade, about_opening, found]
  rfl

theorem share_launched {id : SpriteId} {sprite : Sprite} {leg : Run.Leg}
    (found : stage.sprite? id = some sprite) (absent : engine.runOf? id = none)
    (own : leg.trace.IsOwn id) :
    (engine.join id leg.run?).share (stage.replay (opening id sprite ++ leg.trace)) id =
      ⟨leg.run?, some (sprite.perform (opening id sprite ++ leg.trace.about id).actions)⟩ := by
  have noTrade := ((opening_isOwn id sprite).append own).noTrade
  rw [share, runOf?_join absent, if_pos rfl, Stage.sprite?_replay stage noTrade, found,
    Trace.about_append, about_opening]
  rfl

theorem Launching.step {id : SpriteId} {now : Float} {turn : Turn Engine Bool}
    (launching : Launching engine stage id now turn) :
    Share.Step engine.settings id (engine.share stage id) (turn.trace.about id)
      (turn.actor.share turn.stage id) := by
  cases launching with
  | missing => exact .untouched _
  | refused => exact .untouched _
  | launched sprite leg found resting filled free first =>
      have absent := isRunning_eq_false_iff.mp free
      have own : leg.trace.IsOwn id := first ▸ Run.leg_isOwn _ _
      rw [share_launched found absent own, share, absent, found, Trace.about_append,
        about_opening]
      rw [scene, sprite?_replay_opening found] at first
      exact .launched sprite now leg resting filled first

theorem perform_step (ordered : engine.Ordered) (stage : Stage) (call : Call) (id : SpriteId) :
    Share.Step engine.settings id (engine.share stage id)
      ((engine.perform stage call).trace.about id)
      ((engine.perform stage call).actor.share (engine.perform stage call).stage id) := by
  by_cases starts : ∃ now, call = .run id now
  · rcases starts with ⟨now, isRun⟩
    rw [isRun]
    exact (run_launching engine stage id now).step
  · have notRun : ∀ now, call ≠ .run id now := fun now isRun => starts ⟨now, isRun⟩
    rcases perform_leg ordered stage notRun with ⟨left, told⟩
    rw [share_perform, left, told]
    exact Share.leg_step ..

theorem run_of_fit {id : SpriteId} {sprite : Sprite} (found : stage.sprite? id = some sprite)
    (resting : sprite.isRunning = false) (filled : sprite.program ≠ [])
    (free : engine.isRunning id = false) (now : Float) :
    let leg := (Run.ofProgram sprite.program).leg
      ⟨engine.settings, id, some { sprite with isRunning := true }, now⟩
    let told := opening id sprite ++ leg.trace.about id
    let turn := engine.run stage id now
    turn.answer = true ∧ turn.trace.about id = told ∧
      turn.actor.share turn.stage id = ⟨leg.run?, some (sprite.perform told.actions)⟩ := by
  have launched := run_eq_of_fit found resting filled free now
  rw [scene, sprite?_replay_opening found] at launched
  intro leg told turn
  have own : leg.trace.IsOwn id := Run.leg_isOwn _ _
  rw [show turn = _ from launched]
  refine ⟨rfl, ?_, share_launched found (isRunning_eq_false_iff.mp free) own⟩
  rw [Trace.about_append, about_opening]

theorem run_of_empty (engine : Engine) {id : SpriteId} {sprite : Sprite}
    (found : stage.sprite? id = some sprite)
    (empty : sprite.program = []) (now : Float) :
    engine.run stage id now = ⟨engine, stage, false, []⟩ := by
  simp [run, found, empty]

end SpriteScript.Engine
