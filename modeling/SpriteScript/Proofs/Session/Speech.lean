import SpriteScript.Proofs.Run.Speech
import SpriteScript.Proofs.Session.Basic

namespace SpriteScript

/-! No bubble is left on a sprite. In the course of a session the bubbles of a sprite
are filled and cleared in turn, once for each block that speaks, and in between its run
does nothing else. -/

theorem Engine.Share.Step.speaks {settings : Settings} {id : SpriteId} {share next : Share}
    {trace : Trace} (step : Step settings id share trace next) :
    trace.Speaks id (Run.shown? share.run?) (Run.shown? next.run?) := by
  cases step with
  | untouched => exact .done _
  | marked run sprite? => exact .done _
  | driven run sprite? now leg drive =>
      have speaks := run.leg_speaks ⟨settings, id, sprite?, now⟩
      rw [← drive] at speaks
      exact speaks.about
  | launched sprite now leg resting filled drive =>
      have speaks := (Run.ofProgram sprite.program).leg_speaks
        ⟨settings, id, some { sprite with isRunning := true }, now⟩
      rw [← drive] at speaks
      refine .append (.of_asides none ?_) speaks.about
      simp [opening, Event.isAside, Event.isDeed, Action.isOfBubble, Action.filled?,
        Action.cleared?]

namespace Session

variable {session : Session}

theorem perform_speaks (ordered : session.engine.Ordered) (id : SpriteId) (call : Call) :
    ((session.told call).about id).Speaks id (Run.shown? (session.engine.runOf? id))
      (Run.shown? ((session.perform call).engine.runOf? id)) := by
  cases call with
  | engine call => exact (Engine.perform_step ordered session.stage call id).speaks
  | detector call => exact .done _
  | edit edit => exact .done _

theorem engineTrace_speaks (ordered : session.engine.Ordered) (id : SpriteId)
    (calls : List Call) :
    ((session.engineTrace calls).about id).Speaks id (Run.shown? (session.engine.runOf? id))
      (Run.shown? ((session.after calls).engine.runOf? id)) := by
  induction calls generalizing session with
  | nil => exact .done _
  | cons call rest induction =>
      rw [engineTrace, Trace.about_append]
      exact (perform_speaks ordered id call).append (induction (perform_ordered ordered call))

/-- From a moment when a sprite has no run, whatever is called: its bubbles are filled
and cleared by the remarks of the blocks that it starts, one after the other; the last
bubble is still to be cleared while its run waits for it, and none is without a run;
and after a bubble is filled no block starts and nothing moves until it is cleared. -/
theorem bubbles_filled_and_cleared (reached : session.Reached) {id : SpriteId}
    (free : session.engine.isRunning id = false) (calls : List Call) :
    let trace := (session.engineTrace calls).about id
    let remarks := trace.startedBlocks.flatMap fun block => block.remark id
    let last := (session.after calls).engine
    trace.bubbleActions ++ Bubble.owed id (Run.shown? (last.runOf? id)) = remarks ∧
      (last.isRunning id = false → trace.bubbleActions = remarks) ∧
      ∀ (before between after : Trace) (bubble : Bubble) (text : String) (duration : Float),
        trace = before ++ .acted (bubble.fill id text duration) :: (between ++ after) →
          .acted (bubble.clear id) ∉ between → ∀ event ∈ between, event.isDeed = false := by
  intro trace remarks last
  have speaks := engineTrace_speaks reached.ordered id calls
  rw [Engine.isRunning_eq_false_iff.mp free] at speaks
  have paired : trace.bubbleActions ++ Bubble.owed id (Run.shown? (last.runOf? id)) = remarks :=
    speaks.bubbleActions
  refine ⟨paired, ?_, ?_⟩
  · intro isOver
    rw [Engine.isRunning_eq_false_iff.mp isOver] at paired
    rw [← paired]
    exact (List.append_nil _).symm
  · intro before between after bubble text duration split kept
    exact speaks.quiet_of_fill split kept

/-- A thought for no time and a remark that is cut short. -/
theorem bubbles_filled_and_cleared_stop :
    let thought := Block.plain ⟨⟨1⟩, .think,
      [("seconds", ⟨.number, .number 0.0⟩), ("text", ⟨.text, .text "Hm"⟩)]⟩
    let remark := Block.plain ⟨⟨2⟩, .say,
      [("seconds", ⟨.number, .number 1.0⟩), ("text", ⟨.text, .text "Hi"⟩)]⟩
    let sprite := { Sprite.new ⟨1⟩ "Cat" .origin with program := [thought, remark] }
    let session := begin .standard { Stage.ofSeed 0 with sprites := [sprite] }
      ⟨100.0, 40.0, 100.0, none, []⟩
    let calls : List Call := [.engine (.run ⟨1⟩ 0.0), .engine (.advance 100.0),
      .engine (.advance 200.0), .engine (.stop ⟨1⟩), .engine (.advance 300.0)]
    ((session.engineTrace calls).about ⟨1⟩).bubbleActions =
      [.think ⟨1⟩ "Hm" 0.0, .clearThink ⟨1⟩, .say ⟨1⟩ "Hi" 1000.0, .clearSay ⟨1⟩] := by
  intro thought remark sprite session calls
  have reached : session.Reached := ⟨_, _, _, [], rfl⟩
  have free : session.engine.isRunning ⟨1⟩ = false := rfl
  have paired := bubbles_filled_and_cleared reached free calls
  have isOver : (session.after calls).engine.isRunning ⟨1⟩ = false := by decide +kernel
  rw [paired.2.1 isOver]
  decide +kernel

end Session

end SpriteScript
