import SpriteScript.Proofs.Engine.Order
import SpriteScript.Proofs.Engine.Share

namespace SpriteScript.Engine

/-! Sprites are apart. Two engines that hold the same share of a sprite do the same for
it, whatever the other sprites are and whatever becomes of their runs. -/

variable {left right : Engine} {leftStage rightStage : Stage} {id : SpriteId}

/-! ## The start of the run -/

theorem run_congr (settings : left.settings = right.settings)
    (same : left.share leftStage id = right.share rightStage id) (now : Float) :
    let turn := left.run leftStage id now
    let other := right.run rightStage id now
    turn.actor.share turn.stage id = other.actor.share other.stage id ∧
      turn.trace.about id = other.trace.about id := by
  have runs : left.runOf? id = right.runOf? id := congrArg Share.run? same
  have sprites : leftStage.sprite? id = rightStage.sprite? id := congrArg Share.sprite? same
  have running : left.isRunning id = right.isRunning id := by rw [isRunning_eq, runs, isRunning_eq]
  cases present : rightStage.sprite? id with
  | none =>
      simp only [run, sprites, present]
      exact ⟨same, trivial⟩
  | some sprite =>
      by_cases fit : sprite.isRunning = false ∧ sprite.program ≠ [] ∧ right.isRunning id = false
      · -- Both runs begin with the same leg.
        rcases fit with ⟨resting, filled, free⟩
        have leftRun := run_of_fit (sprites.trans present) resting filled (running.trans free) now
        have rightRun := run_of_fit present resting filled free now
        rw [settings] at leftRun
        exact ⟨leftRun.2.2.trans rightRun.2.2.symm, leftRun.2.1.trans rightRun.2.1.symm⟩
      · have unfit : (sprite.isRunning || sprite.program.isEmpty || right.isRunning id) = true := by
          simp only [← Bool.not_eq_true] at fit
          simpa [or_iff_not_imp_left] using fit
        simp only [run, sprites, present, running, unfit, if_pos]
        exact ⟨same, trivial⟩

/-! ## Any call -/

def Call.reaches (id : SpriteId) : Call → Bool
  | .run other _ | .stop other => other == id
  | .advance _ | .stopAll => true

/-- What a sprite sees of calls: for each call that reaches it, what is told of it and what
is held of it afterwards. -/
def seen (engine : Engine) (stage : Stage) (id : SpriteId) : List Call → List (Trace × Share)
  | [] => []
  | call :: rest =>
      let turn := engine.perform stage call
      let later := turn.actor.seen turn.stage id rest
      if call.reaches id then
        (turn.trace.about id, turn.actor.share turn.stage id) :: later
      else
        later

theorem perform_congr (leftOrdered : left.Ordered) (rightOrdered : right.Ordered)
    (settings : left.settings = right.settings)
    (same : left.share leftStage id = right.share rightStage id) (call : Call) :
    let turn := left.perform leftStage call
    let other := right.perform rightStage call
    turn.actor.share turn.stage id = other.actor.share other.stage id ∧
      turn.trace.about id = other.trace.about id := by
  by_cases starts : ∃ now, call = .run id now
  · rcases starts with ⟨now, isRun⟩
    rw [isRun]
    exact run_congr settings same now
  · have notRun : ∀ now, call ≠ .run id now := fun now isRun => starts ⟨now, isRun⟩
    rcases perform_leg leftOrdered leftStage notRun with ⟨leftRun, leftTold⟩
    rcases perform_leg rightOrdered rightStage notRun with ⟨rightRun, rightTold⟩
    rw [same, settings] at leftRun leftTold
    have sprites : leftStage.sprite? id = rightStage.sprite? id := congrArg Share.sprite? same
    have told := leftTold.trans rightTold.symm
    simp only
    rw [share_perform, share_perform, leftRun, rightRun, told, sprites]
    exact ⟨rfl, rfl⟩

theorem share_perform_of_not_reaches (ordered : left.Ordered) (stage : Stage) {call : Call}
    (elsewhere : call.reaches id = false) :
    (left.perform stage call).actor.share (left.perform stage call).stage id =
      left.share stage id := by
  have notRun : ∀ now, call ≠ .run id now := by
    rintro now rfl
    simp [Call.reaches] at elsewhere
  have untouched : (left.share stage id).leg left.settings id call = ⟨left.runOf? id, []⟩ := by
    cases call with
    | run other now => rfl
    | stop other =>
        have different : ¬id = other := fun equal => by simp [Call.reaches, equal] at elsewhere
        simp [Share.leg, share, different]
    | advance now => cases elsewhere
    | stopAll => cases elsewhere
  rcases perform_leg ordered stage notRun with ⟨kept, silent⟩
  rw [untouched] at kept silent
  rw [share_perform, kept, silent]
  simp [share, Trace.actions]

theorem seen_filter (leftOrdered : left.Ordered) (rightOrdered : right.Ordered)
    (settings : left.settings = right.settings)
    (same : left.share leftStage id = right.share rightStage id) (calls : List Call) :
    left.seen leftStage id calls = right.seen rightStage id (calls.filter (Call.reaches id)) := by
  induction calls generalizing left leftStage right rightStage with
  | nil => rfl
  | cons call rest induction =>
      have leftNext := perform_ordered leftOrdered leftStage call
      have leftSettings := left.perform_settings leftStage call
      cases reached : call.reaches id with
      | false =>
          have kept := share_perform_of_not_reaches leftOrdered leftStage reached
          rw [List.filter_cons_of_neg (by simp [reached]), seen, if_neg (by simp [reached])]
          exact induction leftNext rightOrdered (leftSettings.trans settings) (kept.trans same)
      | true =>
          have alike := perform_congr leftOrdered rightOrdered settings same call
          have later := induction leftNext (perform_ordered rightOrdered rightStage call)
            (leftSettings.trans (settings.trans (right.perform_settings rightStage call).symm))
            alike.1
          rw [List.filter_cons_of_pos reached, seen, seen, if_pos reached, if_pos reached, alike.1,
            alike.2, later]

/-- Two engines with the same settings that hold the same share of a sprite: an advance
does the same for the sprite in both, and its run ends in both or in neither. In the course
of calls, other sprites may be started, stopped and fail in one of them, and the sprite
sees nothing of it. Whatever the order is in which each advance takes the runs, advances
lead to the same stage and to the same runs. -/
theorem advance_isolates_sprites (leftOrdered : left.Ordered) (rightOrdered : right.Ordered)
    (settings : left.settings = right.settings)
    (same : left.share leftStage id = right.share rightStage id) :
    (∀ now, let turn := left.advance leftStage now
      let other := right.advance rightStage now
      turn.actor.share turn.stage id = other.actor.share other.stage id ∧
        turn.trace.about id = other.trace.about id ∧ (id ∈ turn.answer ↔ id ∈ other.answer)) ∧
      (∀ leftCalls rightCalls : List Call,
        leftCalls.filter (Call.reaches id) = rightCalls.filter (Call.reaches id) →
          left.seen leftStage id leftCalls = right.seen rightStage id rightCalls) ∧
      ∀ times last lastStage, Advancing left leftStage times last lastStage →
        (left.advanceAll leftStage times).2 = lastStage ∧
          (left.advanceAll leftStage times).1.runs.Perm last.runs := by
  refine ⟨?_, ?_, ?_⟩
  · intro now
    have alike := perform_congr leftOrdered rightOrdered settings same (.advance now)
    have runsBefore : left.runOf? id = right.runOf? id := congrArg Share.run? same
    have runsAfter : (left.advance leftStage now).actor.runOf? id =
        (right.advance rightStage now).actor.runOf? id := congrArg Share.run? alike.1
    refine ⟨alike.1, alike.2, ?_⟩
    rw [mem_advance_answer _ _ leftOrdered, mem_advance_answer _ _ rightOrdered]
    simp only [isRunning_eq, runsBefore, runsAfter]
  · intro leftCalls rightCalls reaching
    rw [seen_filter leftOrdered rightOrdered settings same, reaching,
      ← seen_filter rightOrdered rightOrdered rfl rfl]
  · intro times last lastStage advancing
    exact advancing.perm leftOrdered rfl (List.Perm.refl _)

/-- A sprite beside one whose run fails, and the same sprite beside one whose run is stopped
and that is started again. -/
theorem advance_isolates_sprites_failure :
    let turn := Block.plain ⟨⟨1⟩, .turnDegrees, [("degrees", ⟨.number, .number 90.0⟩)]⟩
    let leap := Block.plain ⟨⟨2⟩, .goToXY,
      [("x", ⟨.number, .number 1e39⟩), ("y", ⟨.number, .number 0.0⟩)]⟩
    let cat := { Sprite.new ⟨1⟩ "Cat" .origin with program := [turn], isRunning := true }
    let dog := { Sprite.new ⟨2⟩ "Dog" .origin with program := [leap], isRunning := true }
    let left : Engine := ⟨.standard, [(⟨1⟩, .ofProgram [turn]), (⟨2⟩, .ofProgram [leap])]⟩
    let right : Engine := ⟨.standard, [(⟨1⟩, .ofProgram [turn]), (⟨2⟩, (Run.ofProgram []).cancel)]⟩
    let leftStage := { Stage.ofSeed 0 with sprites := [cat, dog] }
    let rightStage := { Stage.ofSeed 1 with sprites := [{ dog with program := [turn] }, cat] }
    (left.advance leftStage 10.0).trace.hasFailure ⟨2⟩ = true ∧
      (left.advance leftStage 10.0).trace.about ⟨1⟩ =
        (right.advance rightStage 10.0).trace.about ⟨1⟩ ∧
      left.seen leftStage ⟨1⟩ [.advance 10.0, .advance 400.0] =
        right.seen rightStage ⟨1⟩ [.advance 10.0, .run ⟨2⟩ 20.0, .stop ⟨2⟩, .advance 400.0] := by
  intro turn leap cat dog left right leftStage rightStage
  have leftOrdered : left.Ordered := by simp [left, Ordered, Ascending]
  have rightOrdered : right.Ordered := by simp [right, Ordered, Ascending]
  have same : left.share leftStage ⟨1⟩ = right.share rightStage ⟨1⟩ := rfl
  have isolates := advance_isolates_sprites leftOrdered rightOrdered rfl same
  refine ⟨by decide +kernel, (isolates.1 10.0).2.1, isolates.2.1 _ _ rfl⟩

end SpriteScript.Engine
