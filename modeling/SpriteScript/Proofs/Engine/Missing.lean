import SpriteScript.Proofs.Engine.Share
import SpriteScript.Proofs.Run.Missing

namespace SpriteScript

/-! Engines whose stage has lost a sprite. Each call of an engine is made on some stage, and
the sprite of a run need not be on it. A run that shows no bubble then paces until its tasks
are done. -/

namespace Engine

/-! ## What is seen of a run -/

structure Visit where
  stage : Stage
  call : Call

structure Glimpse where
  started : List Block
  actions : List Action
  wait? : Option Run.Wait

def legOf (engine : Engine) (id : SpriteId) (visit : Visit) : Run.Leg :=
  let turn := engine.perform visit.stage visit.call
  ⟨turn.actor.runOf? id, turn.trace.about id⟩

def glimpses (engine : Engine) (id : SpriteId) : List Visit → List Glimpse
  | [] => []
  | visit :: rest =>
      let leg := engine.legOf id visit
      ⟨leg.trace.startedBlocks, leg.trace.actions, leg.run?.map Run.wait⟩ ::
        (engine.perform visit.stage visit.call).actor.glimpses id rest

end Engine

namespace Pacer

def perform (pacer : Pacer) (pause : Float) (id : SpriteId) : Engine.Call → Option Pacer
  | .run _ _ => some pacer
  | .advance now => pacer.drive pause now
  | .stop other => some (if id = other then pacer.cancel else pacer)
  | .stopAll => some pacer.cancel

def takenIn (pacer : Pacer) : Engine.Call → List Run.Task
  | .advance now => pacer.taken now
  | .run _ _ | .stop _ | .stopAll => []

/-- What calls come to for a run that paces. All that is done for the sprite is that its
running flag is switched off in the end. -/
def glimpses (pause : Float) (id : SpriteId) :
    Option Pacer → List Engine.Call → List Engine.Glimpse
  | _, [] => []
  | none, _ :: rest => ⟨[], [], none⟩ :: glimpses pause id none rest
  | some pacer, call :: rest =>
      let next? := pacer.perform pause id call
      ⟨(pacer.takenIn call).filterMap Run.Task.block?,
        if next?.isSome then [] else [.setRunning id false], next?.map wait⟩ ::
        glimpses pause id next? rest

end Pacer

/-! ## One call -/

namespace Run

structure IsPacing (run : Run) : Prop where
  pauses : run.wait.isPause
  silent : ∀ block ∈ run.remaining, block.speech? = none

variable {run : Run}

theorem IsPacing.cancel (isPacing : run.IsPacing) : run.cancel.IsPacing :=
  ⟨isPacing.pauses, isPacing.silent⟩

/-- What a leg comes to that takes some tasks and does nothing else. The run goes on as
some pacer, or its running flag is switched off. -/
structure Leg.Paces (leg : Leg) (id : SpriteId) (taken : List Task) (next? : Option Pacer) :
    Prop where
  startedBlocks : leg.trace.startedBlocks = taken.filterMap Task.block?
  actions : leg.trace.actions = if next?.isSome then [] else [.setRunning id false]
  run? : leg.run?.map pacer = next?
  onward : ∀ run, leg.run? = some run → run.IsPacing

theorem leg_of_missing (scene : Scene) (missing : scene.sprite? = none)
    (isPacing : run.IsPacing) :
    (run.leg scene).Paces scene.id (run.pacer.taken scene.now)
      (run.pacer.drive scene.settings.pacing scene.now) := by
  have paces := drive_of_missing missing isPacing.pauses isPacing.silent
  rw [paces.next?]
  by_cases going : (run.drive scene).status = .going
  · rw [leg_of_going going, if_pos going]
    refine ⟨paces.startedBlocks, paces.actions, rfl, ?_⟩
    intro next same
    cases same
    refine ⟨paces.pauses going, fun block member => isPacing.silent block ?_⟩
    rw [← (run.drive_driving scene).remaining_of_going going]
    exact List.mem_append_right _ member
  · have unfailed : Engine.failure scene.id (run.drive scene).status = [] := by
      rw [paces.unfailed.resolve_left going]
      rfl
    rw [leg_of_not_going going, if_neg going, unfailed, List.append_nil]
    refine ⟨?_, ?_, rfl, by simp⟩
    · rw [Trace.startedBlocks_append, paces.startedBlocks]
      exact List.append_nil _
    · rw [Trace.actions_append, paces.actions]
      rfl

end Run

namespace Engine

variable {engine : Engine} {stage : Stage} {id : SpriteId}

theorem perform_run_of_missing (engine : Engine) (missing : stage.sprite? id = none)
    (other : SpriteId) (now : Float) :
    let turn := engine.perform stage (.run other now)
    turn.actor.runOf? id = engine.runOf? id ∧ (turn.trace.about id).startedBlocks = [] ∧
      (turn.trace.about id).actions = [] := by
  by_cases same : other = id
  · subst same
    simp [perform, run, missing, Trace.about, Event.sprite?, Trace.startedBlocks, Trace.actions]
  · have apart := (run_launching engine stage other now).of_ne fun equal => same equal.symm
    simp only [perform, apart.1, apart.2]
    exact ⟨trivial, rfl, rfl⟩

theorem legOf_of_missing (ordered : engine.Ordered) {run : Run}
    (found : engine.runOf? id = some run) (isPacing : run.IsPacing) {visit : Visit}
    (missing : visit.stage.sprite? id = none) :
    (engine.legOf id visit).Paces id (run.pacer.takenIn visit.call)
      (run.pacer.perform engine.settings.pacing id visit.call) := by
  rcases visit with ⟨stage, call⟩
  cases call with
  | run other now =>
      rcases engine.perform_run_of_missing missing other now with ⟨kept, idle, quiet⟩
      rw [found] at kept
      refine ⟨idle, quiet, congrArg _ kept, fun next same => ?_⟩
      cases kept.symm.trans same
      exact isPacing
  | advance now =>
      have own : Trace.IsOwn _ id := run.leg_isOwn (scene engine.settings stage id now)
      have paces : Run.Leg.Paces _ id _ _ :=
        Run.leg_of_missing (scene engine.settings stage id now) missing isPacing
      rcases advance_of_some stage now ordered found with ⟨told, left, _⟩
      refine ⟨?_, ?_, (congrArg _ left).trans paces.run?, fun next same => ?_⟩
      · exact (congrArg _ told).trans (own.startedBlocks_about.trans paces.startedBlocks)
      · exact (congrArg _ told).trans (own.actions_about.trans paces.actions)
      · exact paces.onward next (left.symm.trans same)
  | stop other =>
      have left := engine.runOf?_stop other id
      rw [found, Option.map_some] at left
      refine ⟨rfl, rfl, (congrArg _ left).trans ?_, fun next same => ?_⟩
      · rw [Option.map_some, Pacer.perform]
        split <;> rfl
      · cases left.symm.trans same
        split
        · exact isPacing.cancel
        · exact isPacing
  | stopAll =>
      have left := engine.runOf?_stopAll id
      rw [found, Option.map_some] at left
      refine ⟨rfl, rfl, congrArg _ left, fun next same => ?_⟩
      cases left.symm.trans same
      exact isPacing.cancel

theorem legOf_of_none (ordered : engine.Ordered) (idle : engine.runOf? id = none) {visit : Visit}
    (missing : visit.stage.sprite? id = none) :
    let leg := engine.legOf id visit
    leg.run? = none ∧ leg.trace.startedBlocks = [] ∧ leg.trace.actions = [] := by
  by_cases starts : ∃ other now, visit.call = .run other now
  · rcases starts with ⟨other, now, isRun⟩
    rcases engine.perform_run_of_missing missing other now with ⟨kept, quiet⟩
    rw [legOf, isRun]
    exact ⟨kept.trans idle, quiet⟩
  · have notRun : ∀ now, visit.call ≠ .run id now := fun now isRun => starts ⟨id, now, isRun⟩
    rcases perform_of_none ordered visit.stage idle visit.call notRun with ⟨kept, silent⟩
    simp only [legOf, kept, silent]
    exact ⟨trivial, rfl, rfl⟩

/-! ## Any calls -/

theorem glimpses_of_none (ordered : engine.Ordered) (idle : engine.runOf? id = none)
    {visits : List Visit} (missing : ∀ visit ∈ visits, visit.stage.sprite? id = none)
    (pause : Float) :
    engine.glimpses id visits = Pacer.glimpses pause id none (visits.map Visit.call) := by
  induction visits generalizing engine with
  | nil => rfl
  | cons visit rest induction =>
      rcases List.forall_mem_cons.mp missing with ⟨first, later⟩
      rcases legOf_of_none ordered idle first with ⟨left, started, quiet⟩
      have onward := induction (perform_ordered ordered visit.stage visit.call) left later
      rw [glimpses, onward, left, started, quiet]
      rfl

theorem glimpses_of_missing (ordered : engine.Ordered) {run : Run}
    (found : engine.runOf? id = some run) (isPacing : run.IsPacing) {visits : List Visit}
    (missing : ∀ visit ∈ visits, visit.stage.sprite? id = none) :
    engine.glimpses id visits =
      Pacer.glimpses engine.settings.pacing id (some run.pacer) (visits.map Visit.call) := by
  induction visits generalizing engine run with
  | nil => rfl
  | cons visit rest induction =>
      rcases List.forall_mem_cons.mp missing with ⟨first, later⟩
      have paces := legOf_of_missing ordered found isPacing first
      have nextOrdered := perform_ordered ordered visit.stage visit.call
      have settings := engine.perform_settings visit.stage visit.call
      rw [glimpses, List.map_cons, Pacer.glimpses, paces.startedBlocks, paces.actions,
        ← paces.run?]
      cases left : (engine.legOf id visit).run? with
      | none =>
          rw [glimpses_of_none nextOrdered left later engine.settings.pacing]
          rfl
      | some next =>
          have onward := induction nextOrdered left (paces.onward next left) later
          rw [settings] at onward
          rw [onward, Option.map_some, Option.map_some, Option.map_some,
            Run.wait_pacer (paces.onward next left).pauses]

/-- A block that starts while its sprite is missing does not fail. Repeat blocks with a round
to go are entered, and then comes a block that just pauses, or that shows its bubble. A run
that shows no bubble paces for as long as its sprite is missing, whatever stages its calls
are made on. -/
theorem paces_while_missing (ordered : engine.Ordered) {run : Run}
    (found : engine.runOf? id = some run) (isPacing : run.IsPacing) {visits : List Visit}
    (missing : ∀ visit ∈ visits, visit.stage.sprite? id = none) :
    (∀ (scene : Run.Scene) (frames : List Run.Frame) (block : Block), scene.sprite? = none →
      frames ≠ [] →
        let started := Run.start scene frames block
        ∃ outer last, (∀ block ∈ outer, Block.isEntered block = true) ∧
          last.isEntered = false ∧ started.trace.startedBlocks = outer ++ [last] ∧
          block.plan ++ Run.planIn frames =
            outer.map .start ++ .start last :: Run.planIn started.frames ∧
          started.wait = .ok (Run.unseen scene last).1 ∧
          started.trace.actions = (Run.unseen scene last).2) ∧
    engine.glimpses id visits =
      Pacer.glimpses engine.settings.pacing id (some run.pacer) (visits.map Visit.call) :=
  ⟨fun scene frames block absent inside =>
    (Run.start_starting scene frames block).of_missing inside absent,
    glimpses_of_missing ordered found isPacing missing⟩

/-- A step that is repeated twice, and a turn by no number, on a stage that has lost the
sprite. Nothing is done until the run is over. -/
theorem paces_while_missing_steps :
    let step := Block.plain ⟨⟨1⟩, .moveSteps, [("steps", ⟨.number, .number 10.0⟩)]⟩
    let steps := Block.container ⟨⟨2⟩, .repeatTimes, [("times", ⟨.number, .number 2.0⟩)]⟩ [step]
    let turn := Block.plain ⟨⟨3⟩, .turnDegrees, [("degrees", ⟨.text, .text "half"⟩)]⟩
    let run : Run := ⟨[⟨[steps, turn], [steps, turn], 1⟩], .pacing 50.0, false, 0⟩
    let engine : Engine := ⟨.standard, [(⟨2⟩, run)]⟩
    let nobody := { Stage.ofSeed 0 with sprites := [] }
    let times := [49.0, 50.0, 100.0, 150.0, 200.0, 249.0, 250.0, 300.0]
    let visits : List Visit := times.map fun now => ⟨nobody, .advance now⟩
    engine.glimpses ⟨2⟩ visits =
        Pacer.glimpses 50.0 ⟨2⟩ (some run.pacer) (visits.map Visit.call) ∧
      (engine.glimpses ⟨2⟩ visits).map (fun glimpse =>
        (glimpse.started.map Block.id, glimpse.actions, glimpse.wait?.bind Run.Wait.due?)) =
        [([], [], some 50.0), ([⟨2⟩, ⟨1⟩], [], some 100.0), ([⟨1⟩], [], some 150.0),
          ([], [], some 200.0), ([⟨3⟩], [], some 250.0), ([], [], some 250.0),
          ([], [.setRunning ⟨2⟩ false], none), ([], [], none)] := by
  intro step steps turn run engine nobody times visits
  have ordered : engine.Ordered := by simp [engine, Ordered, Ascending]
  have isPacing : run.IsPacing := ⟨rfl, by decide +kernel⟩
  have missing : ∀ visit ∈ visits, visit.stage.sprite? ⟨2⟩ = none := by
    intro visit member
    rcases List.mem_map.mp member with ⟨now, _, rfl⟩
    rfl
  refine ⟨(paces_while_missing ordered rfl isPacing missing).2, ?_⟩
  decide +kernel

/-- A remark whose sprite is lost just before it starts: the bubble is asked for all the
same, and the run waits for it. -/
theorem remark_while_missing :
    let turn := Block.plain ⟨⟨1⟩, .turnDegrees, [("degrees", ⟨.number, .number 90.0⟩)]⟩
    let remark := Block.plain ⟨⟨2⟩, .say,
      [("seconds", ⟨.number, .number 2.0⟩), ("text", ⟨.text, .text "Hello!"⟩)]⟩
    let cat := { Sprite.new ⟨2⟩ "Cat" .origin with program := [turn, remark] }
    let stage := { Stage.ofSeed 1 with sprites := [cat] }
    let nobody := { Stage.ofSeed 1 with sprites := [] }
    let begun := (Engine.ofSettings .standard).run stage ⟨2⟩ 0.0
    let turned := begun.actor.advance begun.stage 300.0
    let spoken := turned.actor.advance nobody 350.0
    let later := spoken.actor.advance nobody 400.0
    nobody.sprite? ⟨2⟩ = none ∧ spoken.trace.startedBlocks.map Block.id = [⟨2⟩] ∧
      spoken.trace.actions = [.say ⟨2⟩ "Hello!" 2000.0] ∧
      later.answer = [] ∧ later.actor.isRunning ⟨2⟩ = true := by
  decide +kernel

end Engine

end SpriteScript
