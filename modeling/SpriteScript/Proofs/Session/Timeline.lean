import SpriteScript.Proofs.Run.Timeline
import SpriteScript.Proofs.Session.Unfolding

namespace SpriteScript

/-! The timeline of a run in a session: the calls that drive it are the course of its
plan, and in all other calls the engine leaves its sprite alone. -/

/-! ## One leg -/

namespace Run

def Leg.beat (leg : Leg) (scene : Scene) : Beat where
  now := scene.now
  stance? := scene.sprite?.map Sprite.stance
  started := leg.trace.startedBlocks
  effects := leg.trace.effects
  goesOn := leg.run?.isSome

theorem course_leg {run : Run} {scene : Scene} {beats : List Beat}
    (unstopped : (run.leg scene).trace.hasStop scene.id = false)
    (unfailed : (run.leg scene).trace.hasFailure scene.id = false)
    (going : ∀ next, (run.leg scene).run? = some next →
      Course scene.settings scene.id next.wait next.plan beats)
    (ends : (run.leg scene).run? = none → beats = []) :
    Course scene.settings scene.id run.wait run.plan ((run.leg scene).beat scene :: beats) := by
  have driving := run.drive_driving scene
  cases status : (run.drive scene).status with
  | going =>
      rw [leg_of_going status] at going ⊢
      exact driving.course_of_going status ⟨rfl, rfl, rfl, driving.isOfRun.effects_eq⟩ rfl
        (going _ rfl)
  | ended =>
      have notGoing : (run.drive scene).status ≠ .going := by simp [status]
      have told := leg_of_not_going notGoing
      have free := isCancelled_of_unstopped unstopped
      rcases driving.course_of_ended free status with ⟨quiet, course⟩
      rw [quiet, status] at told
      rw [told] at ends ⊢
      rw [ends rfl]
      exact course _ rfl ⟨rfl, rfl, rfl⟩
  | failed fault => exact absurd status (status_of_unfailed unfailed fault)

end Run

namespace Session

/-! ## The beats of a run -/

def drivenAt? (session : Session) (id : SpriteId) : Call → Option Float
  | .engine (.run other now) =>
      if other = id ∧ (session.engine.run session.stage id now).answer = true then some now
      else none
  | .engine (.advance now) => if session.engine.isRunning id then some now else none
  | .engine (.stop _) | .engine .stopAll | .detector _ | .edit _ => none

def beat (session : Session) (id : SpriteId) (call : Call) (now : Float) : Run.Beat where
  now := now
  stance? := (session.stage.sprite? id).map Sprite.stance
  started := ((session.told call).about id).startedBlocks
  effects := ((session.told call).about id).effects
  goesOn := (session.perform call).engine.isRunning id

def beats (session : Session) (id : SpriteId) : List Call → List Run.Beat
  | [] => []
  | call :: rest =>
      ((session.drivenAt? id call).map (session.beat id call)).toList ++
        (session.perform call).beats id rest

variable {session : Session} {id : SpriteId}

theorem perform_settings (session : Session) (call : Call) :
    (session.perform call).engine.settings = session.engine.settings := by
  cases call with
  | engine call => exact session.engine.perform_settings session.stage call
  | detector call => rfl
  | edit edit => rfl

theorem told_of_not_driven (ordered : session.engine.Ordered) {call : Call}
    (undriven : session.drivenAt? id call = none) :
    ((session.told call).about id).startedBlocks = [] ∧
      ((session.told call).about id).effects = [] := by
  cases call with
  | engine call =>
      cases call with
      | run other now =>
          have launching := Engine.run_launching session.engine session.stage other now
          by_cases same : other = id
          · subst same
            simp only [drivenAt?, true_and, ite_eq_right_iff, reduceCtorEq, imp_false] at undriven
            simp only [told, Engine.perform]
            generalize session.engine.run session.stage other now = turn at launching undriven ⊢
            cases launching with
            | missing => exact ⟨rfl, rfl⟩
            | refused => exact ⟨rfl, rfl⟩
            | launched => exact absurd rfl undriven
          · have silent := (launching.of_ne fun equal => same equal.symm).2
            simp only [told, Engine.perform, silent]
            exact ⟨rfl, rfl⟩
      | advance now =>
          have idle : session.engine.runOf? id = none := by
            rw [← Engine.isRunning_eq_false_iff]
            simpa [drivenAt?] using undriven
          rcases Engine.advance_of_none session.stage now ordered idle with ⟨silent, _⟩
          simp only [told, Engine.perform, silent]
          exact ⟨rfl, rfl⟩
      | stop other => exact ⟨rfl, rfl⟩
      | stopAll => exact ⟨rfl, rfl⟩
  | detector call => exact ⟨rfl, rfl⟩
  | edit edit => exact ⟨rfl, rfl⟩

/-- All that the engine does for a sprite is done in the calls that drive its run. -/
theorem beats_whole (ordered : session.engine.Ordered) (id : SpriteId) (calls : List Call) :
    ((session.engineTrace calls).about id).startedBlocks =
        (session.beats id calls).flatMap Run.Beat.started ∧
      ((session.engineTrace calls).about id).effects =
        (session.beats id calls).flatMap Run.Beat.effects := by
  induction calls generalizing session with
  | nil => exact ⟨rfl, rfl⟩
  | cons call rest induction =>
      rcases induction (perform_ordered ordered call) with ⟨blocks, effects⟩
      rw [engineTrace, Trace.about_append, Trace.startedBlocks_append, Trace.effects_append, blocks,
        effects, beats, List.flatMap_append, List.flatMap_append]
      cases driven : session.drivenAt? id call with
      | some now => simp [beat]
      | none =>
          rcases told_of_not_driven ordered driven with ⟨noBlocks, noEffects⟩
          simp [noBlocks, noEffects]

theorem drivenAt?_of_none (idle : session.engine.runOf? id = none) {call : Call}
    (notRun : ∀ now, call ≠ .engine (.run id now)) : session.drivenAt? id call = none := by
  cases call with
  | engine call =>
      cases call with
      | run other now => exact if_neg fun driven => notRun now (by rw [driven.1])
      | advance now => simp [drivenAt?, Engine.isRunning_eq_false_iff.mpr idle]
      | stop other => rfl
      | stopAll => rfl
  | detector call => rfl
  | edit edit => rfl

theorem beats_of_none (ordered : session.engine.Ordered) (idle : session.engine.runOf? id = none)
    {calls : List Call} (notRun : NeverRuns id calls) : session.beats id calls = [] := by
  induction calls generalizing session with
  | nil => rfl
  | cons call rest induction =>
      rcases List.forall_mem_cons.mp notRun with ⟨notFirst, notLater⟩
      rw [beats, drivenAt?_of_none idle notFirst, induction (perform_ordered ordered call)
        (perform_of_none ordered idle notFirst).2.1 notLater]
      rfl

/-! ## The course of a run -/

structure IsLeg (session : Session) (id : SpriteId) (call : Call) (run : Run) (leg : Run.Leg)
    (scene : Run.Scene) : Prop where
  driven : session.drivenAt? id call = some scene.now
  first : leg = run.leg scene
  settings : scene.settings = session.engine.settings
  named : scene.id = id
  seen : scene.sprite?.map Sprite.stance = (session.stage.sprite? id).map Sprite.stance
  told : ∃ opening : Trace, (session.told call).about id = opening ++ leg.trace.about id ∧
    opening.startedBlocks = [] ∧ opening.effects = []
  left : (session.perform call).engine.runOf? id = leg.run?

theorem IsLeg.beat_eq {call : Call} {run : Run} {leg : Run.Leg} {scene : Run.Scene}
    (isLeg : session.IsLeg id call run leg scene) :
    session.beat id call scene.now = leg.beat scene := by
  rcases isLeg with ⟨_, first, _, rfl, seen, ⟨opening, told, unstarted, idle⟩, left⟩
  have own : leg.trace.IsOwn scene.id := first ▸ run.leg_isOwn scene
  have effects : (leg.trace.about scene.id).effects = leg.trace.effects :=
    congrArg (List.filter _) own.actions_about
  rw [beat, Run.Leg.beat, told, Trace.startedBlocks_append, Trace.effects_append, unstarted, idle,
    own.startedBlocks_about, effects, seen, Engine.isRunning_eq, left]
  rfl

theorem IsLeg.course {call : Call} {run : Run} {leg : Run.Leg} {scene : Run.Scene}
    (isLeg : session.IsLeg id call run leg scene) (ordered : session.engine.Ordered)
    {rest : List Call} (notRun : NeverRuns id rest)
    (unstopped : ((session.told call).about id).hasStop id = false)
    (unfailed : ((session.told call).about id).hasFailure id = false)
    (onward : ∀ next, (session.perform call).engine.runOf? id = some next →
      Run.Course session.engine.settings id next.wait next.plan
        ((session.perform call).beats id rest)) :
    Run.Course session.engine.settings id run.wait run.plan (session.beats id (call :: rest)) := by
  have beat := isLeg.beat_eq
  rcases isLeg with ⟨driven, rfl, settings, rfl, _, ⟨opening, told, _⟩, left⟩
  rw [told, Trace.hasStop_append, Bool.or_eq_false_iff, Trace.hasStop_about] at unstopped
  rw [told, Trace.hasFailure_append, Bool.or_eq_false_iff, Trace.hasFailure_about] at unfailed
  rw [beats, driven, Option.map_some, Option.toList_some, List.singleton_append, beat]
  rw [← settings] at onward ⊢
  refine Run.course_leg unstopped.2 unfailed.2 ?_ ?_
  · intro next going
    exact onward next (left.trans going)
  · intro ends
    exact beats_of_none (perform_ordered ordered call) (left.trans ends) notRun

theorem isLeg_of_some (ordered : session.engine.Ordered) {run : Run}
    (found : session.engine.runOf? id = some run) {call : Call}
    (notRun : ∀ now, call ≠ .engine (.run id now)) :
    (session.drivenAt? id call = none ∧ ((session.perform call).engine.runOf? id = some run ∨
        (session.perform call).engine.runOf? id = some run.cancel)) ∨
      ∃ leg scene, session.IsLeg id call run leg scene := by
  cases call with
  | engine call =>
      cases call with
      | run other now =>
          have different : id ≠ other := fun same => notRun now (same ▸ rfl)
          refine .inl ⟨if_neg fun driven => different driven.1.symm, .inl ?_⟩
          have launching := Engine.run_launching session.engine session.stage other now
          exact (launching.of_ne different).1.trans found
      | advance now =>
          have running : session.engine.isRunning id = true := by
            rw [Engine.isRunning_eq, found]
            rfl
          rcases Engine.advance_of_some session.stage now ordered found with ⟨told, left, _⟩
          exact .inr ⟨_, Engine.scene session.engine.settings session.stage id now,
            ⟨if_pos running, rfl, rfl, rfl, rfl, ⟨[], told, rfl, rfl⟩, left⟩⟩
      | stop other =>
          refine .inl ⟨rfl, ?_⟩
          simp only [perform, Engine.perform, Engine.runOf?_stop, found, Option.map_some]
          by_cases named : id = other
          · exact .inr (by rw [if_pos named])
          · exact .inl (by rw [if_neg named])
      | stopAll =>
          refine .inl ⟨rfl, .inr ?_⟩
          simp only [perform, Engine.perform, Engine.runOf?_stopAll, found, Option.map_some]
  | detector call => exact .inl ⟨rfl, .inl found⟩
  | edit edit => exact .inl ⟨rfl, .inl found⟩

theorem course_of_run (ordered : session.engine.Ordered) {run : Run}
    (found : session.engine.runOf? id = some run) {calls : List Call}
    (notRun : NeverRuns id calls)
    (unstopped : ((session.engineTrace calls).about id).hasStop id = false)
    (unfailed : ((session.engineTrace calls).about id).hasFailure id = false) :
    Run.Course session.engine.settings id run.wait run.plan (session.beats id calls) := by
  induction calls generalizing session run with
  | nil => exact .nil _ _
  | cons call rest induction =>
      rcases List.forall_mem_cons.mp notRun with ⟨notFirst, notLater⟩
      rw [engineTrace, Trace.about_append, Trace.hasStop_append, Bool.or_eq_false_iff] at unstopped
      rw [engineTrace, Trace.about_append, Trace.hasFailure_append,
        Bool.or_eq_false_iff] at unfailed
      have onward (next : Run) (left : (session.perform call).engine.runOf? id = some next) :
          Run.Course session.engine.settings id next.wait next.plan
            ((session.perform call).beats id rest) := by
        have later := induction (perform_ordered ordered call) left notLater unstopped.2 unfailed.2
        rwa [perform_settings] at later
      rcases isLeg_of_some ordered found notFirst with
        ⟨undriven, kept | marked⟩ | ⟨leg, scene, isLeg⟩
      · rw [beats, undriven]
        exact onward run kept
      · -- A mark changes neither the wait nor the plan.
        rw [beats, undriven]
        exact onward run.cancel marked
      · exact isLeg.course ordered notLater unstopped.1 unfailed.1 onward

theorem course_of_start (ordered : session.engine.Ordered) {sprite : Sprite}
    (found : session.stage.sprite? id = some sprite) (resting : sprite.isRunning = false)
    (free : session.engine.isRunning id = false) (now : Float) {later : List Call}
    (once : NeverRuns id later) :
    let calls := .engine (.run id now) :: later
    ((session.engineTrace calls).about id).hasStop id = false →
      ((session.engineTrace calls).about id).hasFailure id = false →
        Run.Course session.engine.settings id .ready (Block.plans sprite.program)
          (session.beats id calls) := by
  intro calls unstopped unfailed
  have nextOrdered := perform_ordered ordered (.engine (.run id now))
  rw [engineTrace, Trace.about_append, Trace.hasStop_append, Bool.or_eq_false_iff] at unstopped
  rw [engineTrace, Trace.about_append, Trace.hasFailure_append, Bool.or_eq_false_iff] at unfailed
  by_cases filled : sprite.program = []
  · have refused := session.engine.run_of_empty found filled now
    have undriven : session.drivenAt? id (.engine (.run id now)) = none := by
      simp [drivenAt?, refused]
    have idle : (session.perform (.engine (.run id now))).engine.runOf? id = none := by
      simp only [perform, Engine.perform, refused]
      exact Engine.isRunning_eq_false_iff.mp free
    rw [beats, undriven, beats_of_none nextOrdered idle once]
    exact .ready _
  · rcases Engine.run_of_fit found resting filled free now with ⟨launched, told, shared⟩
    have isLeg : session.IsLeg id (.engine (.run id now)) (.ofProgram sprite.program) _
        ⟨session.engine.settings, id, some { sprite with isRunning := true }, now⟩ :=
      ⟨if_pos ⟨rfl, launched⟩, rfl, rfl, rfl, (congrArg (Option.map Sprite.stance) found).symm,
        ⟨_, told, rfl, rfl⟩, congrArg Engine.Share.run? shared⟩
    have course := isLeg.course ordered once unstopped.1 unfailed.1 fun next left => by
      have later := course_of_run nextOrdered left once unstopped.2 unfailed.2
      rwa [perform_settings] at later
    rw [Run.plan_ofProgram] at course
    exact course

/-- From its start a run keeps to the plan of the program that its sprite has then. Each
block takes its time and then its pause, each repeat block that is left takes a pause of its
own, and meanwhile nothing else is done for the sprite. The plan starts the blocks of the
unfolding of the program, in order. -/
theorem beats_follow_plan (reached : session.Reached) {sprite : Sprite}
    (found : session.stage.sprite? id = some sprite) (resting : sprite.isRunning = false)
    (free : session.engine.isRunning id = false) (now : Float) {later : List Call}
    (once : NeverRuns id later) :
    let calls := .engine (.run id now) :: later
    let trace := (session.engineTrace calls).about id
    let beats := session.beats id calls
    (trace.hasStop id = false → trace.hasFailure id = false →
      Run.Course session.engine.settings id .ready (Block.plans sprite.program) beats) ∧
    (Block.plans sprite.program).filterMap Run.Task.block? = Block.unfolds sprite.program ∧
    trace.startedBlocks = beats.flatMap Run.Beat.started ∧
    trace.effects = beats.flatMap Run.Beat.effects := by
  intro calls trace beats
  refine ⟨?_, Block.blocks_plans _, beats_whole reached.ordered id calls⟩
  exact course_of_start reached.ordered found resting free now once

/-- A turn that is repeated twice, and a remark. The second turn starts at 350, the repeat
block ends at 700, and the remark starts at 750. -/
theorem beats_follow_plan_remark :
    let turn := Block.plain ⟨⟨1⟩, .turnDegrees, [("degrees", ⟨.number, .number 90.0⟩)]⟩
    let turns := Block.container ⟨⟨2⟩, .repeatTimes, [("times", ⟨.number, .number 2.0⟩)]⟩ [turn]
    let remark := Block.plain ⟨⟨3⟩, .say,
      [("seconds", ⟨.number, .number 1.0⟩), ("text", ⟨.text, .text "Hi"⟩)]⟩
    let sprite := { Sprite.new ⟨1⟩ "Cat" .origin with program := [turns, remark] }
    let stage := { Stage.ofSeed 0 with sprites := [sprite] }
    let session := begin .standard stage ⟨100.0, 40.0, 100.0, none, []⟩
    let times := [150.0, 300.0, 340.0, 350.0, 650.0, 700.0, 740.0, 750.0, 1749.0, 1750.0, 1800.0]
    let calls : List Call := .engine (.run ⟨1⟩ 0.0) :: times.map fun now => .engine (.advance now)
    Run.Course .standard ⟨1⟩ .ready (Block.plans [turns, remark]) (session.beats ⟨1⟩ calls) ∧
      (session.beats ⟨1⟩ calls).map (fun beat => (beat.now, beat.effects)) =
        [(0.0, []), (150.0, [.setRotation ⟨1⟩ 78.75]), (300.0, [.setRotation ⟨1⟩ 90.0]),
          (340.0, []), (350.0, []), (650.0, [.setRotation ⟨1⟩ 180.0]), (700.0, []), (740.0, []),
          (750.0, [.say ⟨1⟩ "Hi" 1000.0]), (1749.0, []), (1750.0, [.clearSay ⟨1⟩]),
          (1800.0, [])] := by
  intro turn turns remark sprite stage session times calls
  have reached : session.Reached := ⟨_, _, _, [], rfl⟩
  have found : session.stage.sprite? ⟨1⟩ = some sprite := rfl
  have once : NeverRuns ⟨1⟩ (times.map fun now => .engine (.advance now)) := by
    simp [NeverRuns, times]
  have follows := beats_follow_plan reached found rfl rfl 0.0 once
  refine ⟨follows.1 ?_ ?_, ?_⟩
  · decide +kernel
  · decide +kernel
  · decide +kernel

end Session

end SpriteScript
