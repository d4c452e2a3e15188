import SpriteScript.Proofs.Run.Unfolding
import SpriteScript.Proofs.Session.Basic

namespace SpriteScript

/-! The blocks that a run starts in the course of a session are those of the
unfolding of its program, one after the other, whatever else goes on. -/

/-! ## One leg -/

namespace Run

variable {run : Run} {scene : Scene}

theorem leg_startedBlocks (run : Run) (scene : Scene) :
    (run.leg scene).trace.startedBlocks = (run.drive scene).trace.startedBlocks := by
  have unfailed : Trace.startedBlocks
      (Engine.failure scene.id (run.drive scene).status) = [] := by
    cases (run.drive scene).status <;> rfl
  have unfinished : Trace.startedBlocks (Engine.finish scene.id) = [] := rfl
  simp only [leg, report]
  split
  · rw [Trace.startedBlocks_append, unfailed, List.append_nil]
  · rw [Trace.startedBlocks_append, unfinished, Trace.startedBlocks_append, unfailed]
    simp

theorem leg_startedBlocks_inOrder (run : Run) (scene : Scene) :
    (run.leg scene).trace.startedBlocks <+: run.remaining := by
  rw [leg_startedBlocks]
  exact (run.drive_driving scene).startedBlocks_inOrder

theorem leg_remaining {next : Run} (left : (run.leg scene).run? = some next) :
    (run.leg scene).trace.startedBlocks ++ next.remaining = run.remaining := by
  rw [leg_startedBlocks]
  by_cases going : (run.drive scene).status = .going
  · rw [leg_of_going going] at left
    cases left
    exact (run.drive_driving scene).remaining_of_going going
  · rw [leg_of_not_going going] at left
    cases left

theorem leg_hasStop (scene : Scene) (marked : run.isCancelled = true) :
    (run.leg scene).trace.hasStop scene.id = true := by
  simp [leg, report, drive, marked, Trace.hasStop, Event.isStop]

theorem isCancelled_of_unstopped
    (unstopped : (run.leg scene).trace.hasStop scene.id = false) : run.isCancelled = false := by
  refine Bool.eq_false_iff.mpr fun marked => ?_
  rw [leg_hasStop scene marked] at unstopped
  cases unstopped

theorem status_of_unfailed (unfailed : (run.leg scene).trace.hasFailure scene.id = false)
    (fault : Fault) : (run.drive scene).status ≠ .failed fault := by
  intro status
  have told : (run.leg scene).trace.hasFailure scene.id = true := by
    simp [leg, report, status, Engine.failure, Trace.hasFailure, Event.isFailure]
  rw [told] at unfailed
  cases unfailed

theorem leg_startedBlocks_of_none (ends : (run.leg scene).run? = none)
    (unstopped : (run.leg scene).trace.hasStop scene.id = false)
    (unfailed : (run.leg scene).trace.hasFailure scene.id = false) :
    (run.leg scene).trace.startedBlocks = run.remaining := by
  rw [leg_startedBlocks]
  cases status : (run.drive scene).status with
  | going =>
      rw [leg_of_going status] at ends
      cases ends
  | ended =>
      exact (run.drive_driving scene).remaining_of_ended (isCancelled_of_unstopped unstopped)
        status
  | failed fault => exact absurd status (status_of_unfailed unfailed fault)

end Run

/-! ## A session -/

/-- Whether a trace starts blocks in a given order, and all of them when it is over
without a stop and without a failure. -/
structure Trace.Follows (trace : Trace) (id : SpriteId) (blocks : List Block)
    (isOver : Prop) : Prop where
  inOrder : trace.startedBlocks <+: blocks
  whole : isOver → trace.hasStop id = false → trace.hasFailure id = false →
    trace.startedBlocks = blocks

theorem Run.leg_follows {run : Run} {scene : Run.Scene} {later : Trace} {isOver : Prop}
    (going : ∀ next, (run.leg scene).run? = some next →
      later.Follows scene.id next.remaining isOver)
    (ends : (run.leg scene).run? = none → later = []) :
    Trace.Follows ((run.leg scene).trace.about scene.id ++ later) scene.id run.remaining
      isOver := by
  have started := (run.leg_isOwn scene).startedBlocks_about
  cases left : (run.leg scene).run? with
  | some next =>
      have rest := going next left
      have taken := leg_remaining left
      constructor
      · rw [Trace.startedBlocks_append, started, ← taken]
        exact (List.prefix_append_right_inj _).mpr rest.inOrder
      · intro ended unstopped unfailed
        rw [Trace.hasStop_append, Bool.or_eq_false_iff] at unstopped
        rw [Trace.hasFailure_append, Bool.or_eq_false_iff] at unfailed
        rw [Trace.startedBlocks_append, started, rest.whole ended unstopped.2 unfailed.2, taken]
  | none =>
      rw [ends left, List.append_nil]
      constructor
      · rw [started]
        exact run.leg_startedBlocks_inOrder scene
      · intro _ unstopped unfailed
        rw [Trace.hasStop_about] at unstopped
        rw [Trace.hasFailure_about] at unfailed
        rw [started, leg_startedBlocks_of_none left unstopped unfailed]

namespace Session

variable {session : Session} {id : SpriteId}

theorem follows_of_run (ordered : session.engine.Ordered) {run : Run}
    (found : session.engine.runOf? id = some run) {calls : List Call}
    (notRun : NeverRuns id calls) :
    Trace.Follows ((session.engineTrace calls).about id) id run.remaining
      ((session.after calls).engine.runOf? id = none) := by
  induction calls generalizing session run with
  | nil =>
      refine ⟨⟨_, rfl⟩, fun ends => ?_⟩
      rw [after, found] at ends
      cases ends
  | cons call rest induction =>
      have restOrdered := perform_ordered ordered call
      have restNotRun := (List.forall_mem_cons.mp notRun).2
      rw [engineTrace, after, Trace.about_append]
      rcases perform_of_some ordered found call with
        ⟨silent, kept | marked, _⟩ | ⟨now, told, left, _⟩
      · rw [silent]
        exact induction restOrdered kept restNotRun
      · -- A mark takes nothing from the blocks that are left.
        rw [silent]
        have later := induction restOrdered marked restNotRun
        exact later
      · rw [told]
        refine Run.leg_follows ?_ ?_
        · intro next going
          exact induction restOrdered (left.trans going) restNotRun
        · intro ends
          exact (engineTrace_of_none restOrdered (left.trans ends) restNotRun).1

theorem follows_of_start (ordered : session.engine.Ordered) {sprite : Sprite}
    (found : session.stage.sprite? id = some sprite) (resting : sprite.isRunning = false)
    (free : session.engine.isRunning id = false) (now : Float) {later : List Call}
    (once : NeverRuns id later) :
    let calls := .engine (.run id now) :: later
    Trace.Follows ((session.engineTrace calls).about id) id (Block.unfolds sprite.program)
      ((session.after calls).engine.isRunning id = false) := by
  have nextOrdered := perform_ordered ordered (.engine (.run id now))
  simp only [Engine.isRunning_eq_false_iff]
  rw [engineTrace, after, Trace.about_append]
  rcases perform_run found resting free now with
    ⟨empty, silent, idle, _⟩ | ⟨told, left, _⟩
  · rw [silent, (engineTrace_of_none nextOrdered idle once).1, empty]
    exact ⟨List.prefix_rfl, fun _ _ _ => rfl⟩
  · have driven : Trace.Follows _ id (Run.ofProgram sprite.program).remaining _ :=
      Run.leg_follows
        (fun next going => follows_of_run nextOrdered (left.trans going) once)
        (fun ends => (engineTrace_of_none nextOrdered (left.trans ends) once).1)
    rw [Run.remaining_ofProgram] at driven
    rw [told, List.append_assoc]
    exact ⟨driven.inOrder, driven.whole⟩

/-- However a run is driven, and whatever is done beside it, the blocks that it
starts are those of the unfolding of its program, in order; and they are all of them
when it is over without a stop and without a failure. -/
theorem startedBlocks_follow_unfolds (reached : session.Reached) {sprite : Sprite}
    (found : session.stage.sprite? id = some sprite) (resting : sprite.isRunning = false)
    (free : session.engine.isRunning id = false) (now : Float) {later : List Call}
    (once : NeverRuns id later) :
    let calls := .engine (.run id now) :: later
    let trace := (session.engineTrace calls).about id
    trace.startedBlocks <+: Block.unfolds sprite.program ∧
      ((session.after calls).engine.isRunning id = false →
        trace.hasStop id = false → trace.hasFailure id = false →
          trace.startedBlocks = Block.unfolds sprite.program) := by
  have follows := follows_of_start reached.ordered found resting free now once
  exact ⟨follows.inOrder, follows.whole⟩

/-- A turn that is repeated twice, as far as one goes at a time. -/
theorem startedBlocks_follow_unfolds_repeat :
    let turn := Block.plain ⟨⟨1⟩, .turnDegrees, [("degrees", ⟨.number, .number 90.0⟩)]⟩
    let program := [Block.container ⟨⟨2⟩, .repeatTimes, [("times", ⟨.number, .number 2.0⟩)]⟩ [turn]]
    let sprite := { Sprite.new ⟨1⟩ "Cat" .origin with program }
    let stage := { Stage.ofSeed 0 with sprites := [sprite] }
    let session := begin .standard stage ⟨100.0, 40.0, 100.0, none, []⟩
    let times := [1000.0, 2000.0, 3000.0, 4000.0, 5000.0]
    let calls : List Call := .engine (.run ⟨1⟩ 0.0) :: times.map fun now => .engine (.advance now)
    ((session.engineTrace calls).about ⟨1⟩).startedBlocks = Block.unfolds program := by
  intro turn program sprite stage session times calls
  have reached : session.Reached := ⟨_, _, _, [], rfl⟩
  have found : session.stage.sprite? ⟨1⟩ = some sprite := rfl
  have once : NeverRuns ⟨1⟩ (times.map fun now => .engine (.advance now)) := by
    simp [NeverRuns, times]
  refine (startedBlocks_follow_unfolds reached found rfl rfl 0.0 once).2 ?_ ?_ ?_
  · decide +kernel
  · decide +kernel
  · decide +kernel

end Session

end SpriteScript
