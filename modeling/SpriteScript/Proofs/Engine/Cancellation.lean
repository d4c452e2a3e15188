import SpriteScript.Proofs.Engine.Isolation
import SpriteScript.Proofs.Run.Speech
import SpriteScript.Proofs.Run.Unfolding

namespace SpriteScript

/-! Stopping. A request to stop marks runs. The next advance ends each marked run,
whatever it waits for, and does no more for its sprite than to clear the bubble that is
shown. The other runs do not notice. -/

/-! ## One run -/

theorem Run.leg_of_cancelled {run : Run} (marked : run.isCancelled = true) (scene : Scene) :
    run.leg scene = ⟨none, .runStopped scene.id run.startedCount :: run.abandon scene.id ++
      Engine.finish scene.id⟩ := by
  simp [leg, report, drive, marked, Engine.failure]

theorem Run.actions_abandon (run : Run) (id : SpriteId) :
    (run.abandon id).actions = Bubble.owed id run.wait.bubble? := by
  rw [abandon]
  cases run.wait <;> rfl

theorem Sprite.stance_owed (sprite : Sprite) (id : SpriteId) (shown? : Option Bubble) :
    (sprite.perform (Bubble.owed id shown? ++ [.setRunning id false])).stance = sprite.stance := by
  rcases shown? with _ | _ | _ <;> rfl

namespace Engine

/-! ## Marks -/

inductive Mark
  | run (id : SpriteId)
  | allRuns

def Mark.names (id : SpriteId) : Mark → Bool
  | .run other => other == id
  | .allRuns => true

def mark (engine : Engine) : Mark → Engine
  | .run id => engine.stop id
  | .allRuns => engine.stopAll

def markAll (engine : Engine) (marks : List Mark) : Engine := marks.foldl mark engine

variable {engine : Engine} {id : SpriteId}

theorem mark_ordered (ordered : engine.Ordered) (mark : Mark) : (engine.mark mark).Ordered := by
  cases mark with
  | run id => exact stop_ordered ordered id
  | allRuns => exact stopAll_ordered ordered

theorem markAll_ordered (ordered : engine.Ordered) (marks : List Mark) :
    (engine.markAll marks).Ordered := by
  induction marks generalizing engine with
  | nil => exact ordered
  | cons mark rest induction => exact induction (mark_ordered ordered mark)

theorem markAll_settings (engine : Engine) (marks : List Mark) :
    (engine.markAll marks).settings = engine.settings := by
  induction marks generalizing engine with
  | nil => rfl
  | cons mark rest induction =>
      refine (induction (engine.mark mark)).trans ?_
      cases mark <;> rfl

theorem runOf?_mark (engine : Engine) (mark : Mark) (id : SpriteId) :
    (engine.mark mark).runOf? id =
      (engine.runOf? id).map fun run => if mark.names id then run.cancel else run := by
  cases mark with
  | run other =>
      have named : (other == id) = decide (id = other) := by simp [beq_eq_decide, eq_comm]
      simp [Engine.mark, runOf?_stop, Mark.names, named]
  | allRuns => exact engine.runOf?_stopAll id

/-- A run is marked by any request that is for it; it does not matter how many there are. -/
theorem runOf?_markAll (engine : Engine) (marks : List Mark) (id : SpriteId) :
    (engine.markAll marks).runOf? id =
      (engine.runOf? id).map fun run => if marks.any (Mark.names id) then run.cancel else run := by
  induction marks generalizing engine with
  | nil => simp [markAll]
  | cons mark rest induction =>
      have later := induction (engine.mark mark)
      rw [runOf?_mark, Option.map_map] at later
      refine later.trans (congrArg (Option.map · _) (funext fun run => ?_))
      rw [List.any_cons]
      generalize rest.any (Mark.names id) = others
      cases mark.names id <;> cases others <;> rfl

/-! ## The next advance -/

structure CutShort (id : SpriteId) (run : Run) (stage : Stage)
    (turn : Turn Engine (List SpriteId)) : Prop where
  startedBlocks : (turn.trace.about id).startedBlocks = []
  actions : (turn.trace.about id).actions =
    Bubble.owed id run.wait.bubble? ++ [.setRunning id false]
  stance : (turn.stage.sprite? id).map Sprite.stance = (stage.sprite? id).map Sprite.stance
  gone : turn.actor.runOf? id = none
  named : id ∈ turn.answer

theorem advance_of_cancelled (ordered : engine.Ordered) (stage : Stage) (now : Float) {run : Run}
    (found : engine.runOf? id = some run) (marked : run.isCancelled = true) :
    CutShort id run stage (engine.advance stage now) := by
  rcases advance_of_some stage now ordered found with ⟨told, left, named⟩
  have own : Trace.IsOwn _ id := run.leg_isOwn (scene engine.settings stage id now)
  have gone : (run.leg (scene engine.settings stage id now)).run? = none := by
    rw [Run.leg_of_cancelled marked]
  have actions : ((engine.advance stage now).trace.about id).actions =
      Bubble.owed id run.wait.bubble? ++ [.setRunning id false] := by
    rw [told, own.actions_about, Run.leg_of_cancelled marked, Trace.actions_append]
    exact congrArg (· ++ _) (run.actions_abandon id)
  refine ⟨?_, actions, ?_, left.trans gone, named.mpr gone⟩
  · rw [told, own.startedBlocks_about, Run.leg_of_cancelled marked, Trace.startedBlocks_append]
    exact congrArg (· ++ []) (run.startedBlocks_abandon id)
  · have seen := sprite?_perform engine stage (.advance now) id
    simp only [perform] at seen
    rw [seen, actions, Option.map_map]
    congr 1
    funext sprite
    exact sprite.stance_owed id run.wait.bubble?

/-- After requests to stop, the next advance ends each run that one of them is for, whatever
the run waits for: no block starts, nothing moves, the bubble that is shown is cleared, and
the run is gone. To any other sprite that advance, and whatever is called after it, is as if
there had been no request. -/
theorem marks_end_runs (ordered : engine.Ordered) (stage : Stage) (marks : List Mark)
    (now : Float) (id : SpriteId) :
    let turn := (engine.markAll marks).advance stage now
    let other := engine.advance stage now
    (marks.any (Mark.names id) = true → ∀ run, engine.runOf? id = some run →
      CutShort id run stage turn) ∧
    (marks.any (Mark.names id) = false →
      turn.trace.about id = other.trace.about id ∧
        turn.actor.share turn.stage id = other.actor.share other.stage id ∧
        (id ∈ turn.answer ↔ id ∈ other.answer) ∧
        ∀ calls, turn.actor.seen turn.stage id calls = other.actor.seen other.stage id calls) := by
  intro turn other
  have markedOrdered := markAll_ordered ordered marks
  have runs := engine.runOf?_markAll marks id
  constructor
  · intro named run found
    rw [found, Option.map_some, if_pos named] at runs
    have cut := advance_of_cancelled markedOrdered stage now runs rfl
    exact ⟨cut.startedBlocks, cut.actions, cut.stance, cut.gone, cut.named⟩
  · intro unnamed
    have kept : (engine.markAll marks).runOf? id = engine.runOf? id := by
      rw [runs]
      simp [unnamed]
    have same : (engine.markAll marks).share stage id = engine.share stage id := by
      rw [share, kept, share]
    have settings := engine.markAll_settings marks
    rcases perform_congr markedOrdered ordered settings same (.advance now) with ⟨shared, told⟩
    have left : turn.actor.runOf? id = other.actor.runOf? id := congrArg Share.run? shared
    refine ⟨told, shared, ?_, ?_⟩
    · rw [mem_advance_answer _ _ markedOrdered, mem_advance_answer _ _ ordered]
      simp only [isRunning_eq, kept]
      rw [left]
    · intro calls
      have turnOrdered := advance_ordered stage now markedOrdered
      have otherOrdered := advance_ordered stage now ordered
      have onward := seen_filter turnOrdered otherOrdered settings shared calls
      exact onward.trans (seen_filter otherOrdered otherOrdered rfl rfl calls).symm

/-- A sprite that speaks inside a repeat block is stopped, and the sprite beside it, whose
run is under way as well, is not. -/
theorem marks_end_runs_remark :
    let turn := Block.plain ⟨⟨1⟩, .turnDegrees, [("degrees", ⟨.number, .number 90.0⟩)]⟩
    let remark := Block.plain ⟨⟨2⟩, .say,
      [("seconds", ⟨.number, .number 1.0⟩), ("text", ⟨.text, .text "Hi"⟩)]⟩
    let talker : Run := ⟨[⟨[remark], [], 3⟩, ⟨[turn], [], 1⟩], .speaking .speech 1000.0, false, 2⟩
    let dancer : Run := ⟨[⟨[turn], [], 1⟩], .animating ⟨.spin 0.0 90.0, 0.0, 300.0⟩, false, 1⟩
    let engine : Engine := ⟨.standard, [(⟨1⟩, talker), (⟨2⟩, dancer)]⟩
    let cat := { Sprite.new ⟨1⟩ "Cat" .origin with sayText := "Hi", isRunning := true }
    let dog := { Sprite.new ⟨2⟩ "Dog" .origin with isRunning := true }
    let stage := { Stage.ofSeed 0 with sprites := [cat, dog] }
    let turn := (engine.markAll [.run ⟨1⟩, .run ⟨7⟩]).advance stage 150.0
    (turn.trace.about ⟨1⟩).actions = [.clearSay ⟨1⟩, .setRunning ⟨1⟩ false] ∧
      turn.trace.about ⟨2⟩ = (engine.advance stage 150.0).trace.about ⟨2⟩ ∧
      (turn.trace.about ⟨2⟩).actions = [.setRotation ⟨2⟩ 78.75] := by
  intro turn remark talker dancer engine cat dog stage turn
  have ordered : engine.Ordered := by simp [engine, Ordered, Ascending]
  have ends (id : SpriteId) := marks_end_runs ordered stage [.run ⟨1⟩, .run ⟨7⟩] 150.0 id
  refine ⟨((ends ⟨1⟩).1 rfl talker rfl).actions, ((ends ⟨2⟩).2 rfl).1, ?_⟩
  decide +kernel

end Engine

end SpriteScript
