import SpriteScript.Play.Playback
import SpriteScript.Proofs.Detector.Call
import SpriteScript.Proofs.Engine.Call
import SpriteScript.Proofs.Stage.Programs

namespace SpriteScript

/-! No program is lost. Whatever plays on a stage, its sprites stay, and their programs
afterwards are those from before, moved by the trades that were made. -/

/-! ## Playback -/

namespace Playback

variable (playback : Playback) (stage : Stage) (now : Float)

theorem advance_trades (engine : Engine) :
    stage.Trades (engine.advance stage now).trace.swaps (engine.advance stage now).stage := by
  rw [Engine.advance_stage]
  exact stage.trades_replay _

theorem runAll_trades (engine : Engine) (ids : List SpriteId) :
    stage.Trades (runAll engine stage now ids).trace.swaps (runAll engine stage now ids).stage := by
  induction ids generalizing engine stage with
  | nil => exact .refl stage
  | cons id rest induction =>
      have first := stage.trades_replay (engine.run stage id now).trace
      rw [← (Engine.run_launching engine stage id now).stage_eq.1] at first
      simp only [runAll, Trace.swaps_append]
      exact first.append (induction _ _)

theorem windDown_trades :
    stage.Trades (playback.windDown stage).trace.swaps (playback.windDown stage).stage := by
  have silent : (playback.windDown stage).trace.swaps = [] := by
    simp only [windDown, Detector.stop]
    split <;> split <;> rfl
  rw [silent]
  exact ⟨rfl, rfl⟩

theorem play_trades :
    stage.Trades (playback.play stage now).trace.swaps (playback.play stage now).stage := by
  simp only [play]
  split
  · exact .refl stage
  · have marked : stage.Trades [] { stage with isPlaying := true } := ⟨rfl, rfl⟩
    have started := marked.append (runAll_trades { stage with isPlaying := true } now
      playback.engine stage.spriteIds)
    rw [List.nil_append] at started
    have watched : Trace.swaps (playback.detector.start stage.spriteIds now).2 = [] := by
      simp only [Detector.start]
      split <;> rfl
    have told (answer count : Nat) : Trace.swaps [.playbackStarted answer count] = [] := rfl
    split
    · simp only [Trace.swaps_append, watched, told, List.nil_append, List.append_nil]
      exact started.append (windDown_trades _ _)
    · simp only [Trace.swaps_append, watched, told, List.nil_append, List.append_nil]
      exact started

theorem stop_trades :
    stage.Trades (playback.stop stage now).trace.swaps (playback.stop stage now).stage := by
  simp only [stop, Trace.swaps_append]
  exact (advance_trades stage now playback.engine.stopAll).append (windDown_trades _ _)

theorem toggle_trades :
    stage.Trades (playback.toggle stage now).trace.swaps (playback.toggle stage now).stage := by
  simp only [toggle]
  split
  · exact playback.stop_trades stage now
  · exact playback.play_trades stage now

theorem frame_trades :
    stage.Trades (playback.frame stage now).trace.swaps (playback.frame stage now).stage := by
  have advanced := advance_trades stage now playback.engine
  have scanned := (playback.engine.advance stage now).stage.trades_replay
    (playback.detector.advance (playback.engine.advance stage now).stage now).trace
  rw [← (Detector.advance_stage ..).1] at scanned
  simp only [frame]
  split
  · simp only [Trace.swaps_append]
    exact (advanced.append scanned).append (windDown_trades _ _)
  · simp only [Trace.swaps_append]
    exact advanced.append scanned

end Playback

/-! ## All that plays -/

structure Ensemble where
  stage : Stage
  engine : Engine
  detector : Detector Float
  playback : Playback

namespace Ensemble

inductive Call
  | engine (call : Engine.Call)
  | detector (call : Detector.Call)
  | play (now : Float)
  | stop (now : Float)
  | toggle (now : Float)
  | frame (now : Float)
  | swap (left right : SpriteId)

def perform (ensemble : Ensemble) : Call → Ensemble × Trace
  | .engine call =>
      let turn := ensemble.engine.perform ensemble.stage call
      ({ ensemble with stage := turn.stage, engine := turn.actor }, turn.trace)
  | .detector call =>
      let turn := ensemble.detector.perform ensemble.stage call
      ({ ensemble with stage := turn.stage, detector := turn.actor }, turn.trace)
  | .play now =>
      let turn := ensemble.playback.play ensemble.stage now
      ({ ensemble with stage := turn.stage, playback := turn.actor }, turn.trace)
  | .stop now =>
      let turn := ensemble.playback.stop ensemble.stage now
      ({ ensemble with stage := turn.stage, playback := turn.actor }, turn.trace)
  | .toggle now =>
      let turn := ensemble.playback.toggle ensemble.stage now
      ({ ensemble with stage := turn.stage, playback := turn.actor }, turn.trace)
  | .frame now =>
      let turn := ensemble.playback.frame ensemble.stage now
      ({ ensemble with stage := turn.stage, playback := turn.actor }, turn.trace)
  | .swap left right =>
      let trace : Trace := [.acted (.swapPrograms left right)]
      ({ ensemble with stage := ensemble.stage.replay trace }, trace)

def after (ensemble : Ensemble) : List Call → Ensemble × Trace
  | [] => (ensemble, [])
  | call :: rest =>
      let (next, trace) := ensemble.perform call
      let (last, later) := next.after rest
      (last, trace ++ later)

theorem perform_trades (ensemble : Ensemble) (call : Call) :
    ensemble.stage.Trades (ensemble.perform call).2.swaps (ensemble.perform call).1.stage := by
  cases call with
  | engine call =>
      simp only [perform, (ensemble.engine.perform_stage ensemble.stage call).1]
      exact ensemble.stage.trades_replay _
  | detector call =>
      simp only [perform, (ensemble.detector.perform_stage ensemble.stage call).1]
      exact ensemble.stage.trades_replay _
  | play now => exact ensemble.playback.play_trades ensemble.stage now
  | stop now => exact ensemble.playback.stop_trades ensemble.stage now
  | toggle now => exact ensemble.playback.toggle_trades ensemble.stage now
  | frame now => exact ensemble.playback.frame_trades ensemble.stage now
  | swap left right => exact ensemble.stage.trades_replay _

theorem after_trades (ensemble : Ensemble) (calls : List Call) :
    ensemble.stage.Trades (ensemble.after calls).2.swaps (ensemble.after calls).1.stage := by
  induction calls generalizing ensemble with
  | nil => exact .refl ensemble.stage
  | cons call rest induction =>
      simp only [after, Trace.swaps_append]
      exact (ensemble.perform_trades call).append (induction _)

/-- Whatever is called, the sprites stay with their names, and the programs are the ones
from before: each place has the program of the place to which the transpositions of the
trades, composed in order, lead from it. So no program is lost or doubled, and a sprite that
takes part in no trade keeps its program. -/
theorem programs_conserved (ensemble : Ensemble) (calls : List Call) :
    let before := ensemble.stage
    let last := (ensemble.after calls).1.stage
    let swaps := (ensemble.after calls).2.swaps
    last.roster = before.roster ∧
      (∀ place, last.programs[place]? =
        before.programs[Stage.rearrangement before.spriteIds swaps place]?) ∧
      last.programs.Perm before.programs ∧
      ∀ id, (∀ swap ∈ swaps, swap.1 ≠ id ∧ swap.2 ≠ id) →
        (last.sprite? id).map Sprite.program = (before.sprite? id).map Sprite.program := by
  intro before last swaps
  have trades : before.Trades swaps last := ensemble.after_trades calls
  have places (place : Nat) : last.programs[place]? =
      before.programs[Stage.rearrangement before.spriteIds swaps place]? := by
    rw [trades.programs]
    exact Stage.getElem?_exchangeAll before.length_programs swaps place
  refine ⟨trades.roster, places, ?_, ?_⟩
  · rw [trades.programs]
    exact Stage.exchangeAll_perm ..
  · intro id others
    rw [Stage.program?_eq, Stage.program?_eq, trades.spriteIds, places,
      Stage.rearrangement_idxOf _ others]

end Ensemble

end SpriteScript
