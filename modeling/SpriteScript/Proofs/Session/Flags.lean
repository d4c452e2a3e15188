import Mathlib.Data.List.Chain
import SpriteScript.Proofs.Session.Basic

namespace SpriteScript

/-! The running flags of sprites follow the runs of the engine: a flag is set when a
run starts and cleared when it is over, and at no other time. -/

/-! ## One leg -/

theorem Run.leg_switches (run : Run) (scene : Scene) {id : SpriteId} (named : scene.id = id) :
    ((run.leg scene).trace.about id).switches =
      if (run.leg scene).run?.isSome then [] else [false] := by
  subst named
  have quiet := (run.drive_driving scene).isOfRun.switches_eq_nil
  rw [(run.leg_isOwn scene).switches_about]
  by_cases going : (run.drive scene).status = .going
  · rw [leg_of_going going]
    exact quiet
  · have untold : Trace.switches (Engine.failure scene.id (run.drive scene).status) = [] := by
      cases (run.drive scene).status <;> rfl
    rw [leg_of_not_going going, Trace.switches_append, Trace.switches_append, quiet, untold]
    rfl

/-! ## One sprite -/

namespace Engine.Share

def Agrees (share : Share) : Prop := share.sprite?.any Sprite.isRunning = share.run?.isSome

variable {settings : Settings} {id : SpriteId} {share next : Share} {trace : Trace}

theorem Step.agrees (step : Step settings id share trace next) (agrees : share.Agrees) :
    next.Agrees := by
  cases step with
  | untouched => exact agrees
  | marked run sprite? => exact agrees
  | driven run sprite? now leg drive =>
      cases sprite? with
      | none => cases agrees
      | some sprite =>
          have marked : sprite.isRunning = true := agrees
          have switched := run.leg_switches ⟨settings, id, some sprite, now⟩ rfl
          rw [← drive] at switched
          rw [Agrees, Option.map_some, Option.any_some, Sprite.isRunning_perform, switched, marked]
          cases leg.run? with
          | some next => rfl
          | none => rfl
  | launched sprite now leg resting filled drive =>
      have switched := Run.leg_switches (.ofProgram sprite.program)
        ⟨settings, id, some { sprite with isRunning := true }, now⟩ rfl
      rw [← drive] at switched
      rw [Agrees, Option.any_some, Sprite.isRunning_perform, Trace.switches_append, switched]
      cases leg.run? with
      | some next => rfl
      | none => rfl

theorem Step.isChain (step : Step settings id share trace next) {later : List Bool}
    (chain : (next.run?.isSome :: later).IsChain (· ≠ ·)) :
    (share.run?.isSome :: (trace.switches ++ later)).IsChain (· ≠ ·) := by
  cases step with
  | untouched => exact chain
  | marked run sprite? => exact chain
  | driven run sprite? now leg drive =>
      have switched := run.leg_switches ⟨settings, id, sprite?, now⟩ rfl
      rw [← drive] at switched
      rw [switched]
      cases left : leg.run? with
      | some next =>
          rw [left] at chain
          exact chain
      | none =>
          rw [left] at chain
          exact .cons_cons Bool.false_ne_true.symm chain
  | launched sprite now leg resting filled drive =>
      have switched := Run.leg_switches (.ofProgram sprite.program)
        ⟨settings, id, some { sprite with isRunning := true }, now⟩ rfl
      rw [← drive] at switched
      rw [Trace.switches_append, switched]
      refine .cons_cons Bool.false_ne_true ?_
      cases left : leg.run? with
      | some next =>
          rw [left] at chain
          exact chain
      | none =>
          rw [left] at chain
          exact .cons_cons Bool.false_ne_true.symm chain

end Engine.Share

/-! ## A session -/

namespace Session

def Call.KeepsMarks : Call → Prop
  | .edit made => made.KeepsMarks
  | _ => True

def Agrees (session : Session) : Prop :=
  ∀ id, session.stage.isMarked id = session.engine.isRunning id

variable {session : Session}

theorem perform_agrees (ordered : session.engine.Ordered) (agrees : session.Agrees) {call : Call}
    (keeps : call.KeepsMarks) : (session.perform call).Agrees := by
  intro id
  have before := agrees id
  rw [Engine.isRunning_eq] at before ⊢
  cases call with
  | engine call => exact (Engine.perform_step ordered session.stage call id).agrees before
  | detector call =>
      have done := session.detector.perform_stage session.stage call
      simp only [perform]
      rw [done.1, Stage.isMarked_replay _ (done.2.sprite?_ne id), before]
  | edit edit =>
      simp only [perform]
      rw [session.stage.isMarked_edit keeps id, before]

theorem after_agrees (ordered : session.engine.Ordered) (agrees : session.Agrees)
    {calls : List Call} (keeps : ∀ call ∈ calls, call.KeepsMarks) :
    (session.after calls).Agrees := by
  refine (after_of_perform (motive := fun session => session.engine.Ordered ∧ session.Agrees)
    ?_ ⟨ordered, agrees⟩ keeps).2
  intro session call holds keeps
  exact ⟨perform_ordered holds.1 call, perform_agrees holds.1 holds.2 keeps⟩

theorem engineTrace_isChain (ordered : session.engine.Ordered) (id : SpriteId)
    (calls : List Call) :
    (session.engine.isRunning id ::
      ((session.engineTrace calls).about id).switches).IsChain (· ≠ ·) := by
  induction calls generalizing session with
  | nil => exact .singleton _
  | cons call rest induction =>
      have later := induction (perform_ordered ordered call)
      rw [engineTrace, Trace.about_append, Trace.switches_append]
      rw [Engine.isRunning_eq] at later ⊢
      cases call with
      | engine call => exact (Engine.perform_step ordered session.stage call id).isChain later
      | detector call => exact later
      | edit edit => exact later

theorem run_answer (agrees : session.Agrees) (id : SpriteId) (now : Float) :
    let turn := session.engine.run session.stage id now
    (turn.answer = true ↔ ∃ sprite, session.stage.sprite? id = some sprite ∧
        sprite.program ≠ [] ∧ session.engine.isRunning id = false) ∧
      (turn.answer = false → turn.actor = session.engine ∧ turn.stage = session.stage) := by
  have launching := Engine.run_launching session.engine session.stage id now
  generalize session.engine.run session.stage id now = turn at launching
  cases launching with
  | missing absent => simp [absent]
  | refused sprite found unfit =>
      -- A sprite that is marked has a run, so the mark is no reason of its own.
      have marked : sprite.isRunning = session.engine.isRunning id := by
        rw [← agrees id, Stage.isMarked, found]
        rfl
      rw [marked] at unfit
      refine ⟨⟨fun told => absurd told Bool.false_ne_true, fun fit => ?_⟩, fun _ => ⟨rfl, rfl⟩⟩
      rcases fit with ⟨other, same, filled, free⟩
      rw [found] at same
      cases same
      simp [filled, free] at unfit
  | launched sprite leg found resting filled free first => simp [found, filled, free]

theorem begin_agrees {settings : Settings} {stage : Stage} {detector : Detector Float}
    (resting : ∀ sprite ∈ stage.sprites, sprite.isRunning = false) :
    (begin settings stage detector).Agrees := by
  intro id
  have unmarked : stage.isMarked id = false := by
    rw [Stage.isMarked]
    cases found : stage.sprite? id with
    | none => rfl
    | some sprite => exact resting sprite (List.mem_of_find?_eq_some found)
  exact unmarked

/-- On a stage where all sprites rest at first, and whose running flags the engine
alone sets: the flags say which sprites have runs, each flag is set and cleared in
turn, an advance names the runs that are gone after it, and a run is started for a
sprite that has a program and no run, and for no other. -/
theorem flags_follow_runs (settings : Settings) (stage : Stage) (detector : Detector Float)
    (resting : ∀ sprite ∈ stage.sprites, sprite.isRunning = false) (calls : List Call)
    (keeps : ∀ call ∈ calls, call.KeepsMarks) :
    let first := begin settings stage detector
    let last := first.after calls
    (∀ id, (last.stage.sprite? id).any Sprite.isRunning = last.engine.isRunning id) ∧
      (last.stage.spriteIds.Nodup → ∀ sprite ∈ last.stage.sprites,
        sprite.isRunning = last.engine.isRunning sprite.id) ∧
      (∀ id, (false :: ((first.engineTrace calls).about id).switches).IsChain (· ≠ ·)) ∧
      (∀ now, let turn := last.engine.advance last.stage now
        Engine.Ascending turn.answer ∧ ∀ id, id ∈ turn.answer ↔
          last.engine.isRunning id = true ∧ turn.actor.isRunning id = false) ∧
      (∀ id now, let turn := last.engine.run last.stage id now
        (turn.answer = true ↔ ∃ sprite, last.stage.sprite? id = some sprite ∧
            sprite.program ≠ [] ∧ last.engine.isRunning id = false) ∧
          (turn.answer = false → turn.actor = last.engine ∧ turn.stage = last.stage)) := by
  intro first last
  have firstOrdered : first.engine.Ordered := .nil
  have ordered : last.engine.Ordered := after_ordered firstOrdered calls
  have agrees : last.Agrees := after_agrees firstOrdered (begin_agrees resting) keeps
  refine ⟨agrees, ?_, ?_, ?_, run_answer agrees⟩
  · intro distinct sprite member
    have found := Stage.sprite?_of_mem distinct member
    rw [← agrees sprite.id, Stage.isMarked, found]
    rfl
  · intro id
    exact engineTrace_isChain firstOrdered id calls
  · intro now
    exact ⟨Engine.advance_answer_ascending last.stage now ordered,
      Engine.mem_advance_answer last.stage now ordered⟩

/-- Two sprites that are started, and one of them that is stopped; the program of the
other one is edited meanwhile. -/
theorem flags_follow_runs_stop :
    let turn := Block.plain ⟨⟨1⟩, .turnDegrees, [("degrees", ⟨.number, .number 90.0⟩)]⟩
    let cat := { Sprite.new ⟨1⟩ "Cat" .origin with program := [turn] }
    let dog := { Sprite.new ⟨2⟩ "Dog" .origin with program := [turn, turn] }
    let first := begin .standard { Stage.ofSeed 0 with sprites := [cat, dog] }
      ⟨100.0, 40.0, 100.0, none, []⟩
    let calls : List Call := [.engine (.run ⟨1⟩ 0.0), .detector (.start [⟨1⟩, ⟨2⟩] 1.0),
      .engine (.run ⟨2⟩ 5.0), .engine (.stop ⟨1⟩), .edit (.program (.removeBlock 0)),
      .engine (.advance 16.0)]
    let last := first.after calls
    (last.stage.sprite? ⟨1⟩).any Sprite.isRunning = last.engine.isRunning ⟨1⟩ ∧
      (false :: ((first.engineTrace calls).about ⟨1⟩).switches).IsChain (· ≠ ·) := by
  intro turn cat dog first calls last
  have follow := flags_follow_runs .standard { Stage.ofSeed 0 with sprites := [cat, dog] }
    ⟨100.0, 40.0, 100.0, none, []⟩ (by simp [cat, dog, Sprite.new]) calls
    (by simp [calls, Call.KeepsMarks, Stage.Edit.KeepsMarks])
  exact ⟨follow.1 ⟨1⟩, follow.2.2.1 ⟨1⟩⟩

end Session

end SpriteScript
