import SpriteScript.Play.Playback
import SpriteScript.Proofs.Detector.Call
import SpriteScript.Proofs.Engine.Call

namespace SpriteScript

/-! The stage, the detector and the engine agree on whether a playback plays: the
stage is marked as playing while the detector watches and while there is a run. -/

/-! ## The engine -/

namespace Engine

theorem advance_isIdle {engine : Engine} (idle : engine.isIdle = true) (stage : Stage)
    (now : Float) : (engine.advance stage now).actor.isIdle = true := by
  have none : engine.runs = [] := List.isEmpty_iff.mp idle
  simp [advance, isIdle, none, driveAll]

theorem driveAll_of_cancelled (settings : Settings) (now : Float) (stage : Stage)
    {runs : List (SpriteId × Run)} (marked : ∀ entry ∈ runs, entry.2.isCancelled = true) :
    (driveAll settings now stage runs).runs = [] := by
  induction runs generalizing stage with
  | nil => rfl
  | cons entry rest induction =>
      rcases entry with ⟨id, run⟩
      rcases List.forall_mem_cons.mp marked with ⟨first, later⟩
      have ended : (run.drive (scene settings stage id now)).status = .ended := by
        rw [Run.drive, if_pos first]
      simp only [driveAll_cons, ended]
      exact induction _ later

theorem advance_stopAll_isIdle (engine : Engine) (stage : Stage) (now : Float) :
    (engine.stopAll.advance stage now).actor.isIdle = true := by
  refine List.isEmpty_iff.mpr (driveAll_of_cancelled _ now stage ?_)
  intro entry member
  rcases List.mem_map.mp member with ⟨before, _, same⟩
  rw [← same]
  rfl

theorem advance_isPlaying (engine : Engine) (stage : Stage) (now : Float) :
    (engine.advance stage now).stage.isPlaying = stage.isPlaying := by
  rw [advance_stage, Stage.replay_isPlaying]

theorem run_isPlaying (engine : Engine) (stage : Stage) (id : SpriteId) (now : Float) :
    (engine.run stage id now).stage.isPlaying = stage.isPlaying := by
  rw [(run_launching engine stage id now).stage_eq.1, Stage.replay_isPlaying]

end Engine

namespace Playback

/-! ## Agreement -/

structure Shows (playback : Playback) (stage : Stage) (isPlaying : Bool) : Prop where
  stage : stage.isPlaying = isPlaying
  detector : playback.detector.isWatching = isPlaying
  engine : playback.engine.isIdle = !isPlaying

theorem runAll_isPlaying (engine : Engine) (stage : Stage) (now : Float) (ids : List SpriteId) :
    (runAll engine stage now ids).stage.isPlaying = stage.isPlaying := by
  induction ids generalizing engine stage with
  | nil => rfl
  | cons id rest induction =>
      simp only [runAll]
      rw [induction, Engine.run_isPlaying]

theorem windDown_shows {playback : Playback} (idle : playback.engine.isIdle = true)
    (stage : Stage) :
    (playback.windDown stage).actor.Shows (playback.windDown stage).stage false := by
  refine ⟨rfl, ?_, idle⟩
  simp only [windDown, Detector.stop]
  split
  · rfl
  · next watch => rw [Detector.isWatching, watch]; rfl

variable {playback : Playback} {stage : Stage} {isPlaying : Bool}

theorem Shows.of_isIdle (shows : playback.Shows stage isPlaying)
    (idle : playback.engine.isIdle = true) : playback.Shows stage false := by
  have agreed := shows.engine
  rw [idle] at agreed
  cases isPlaying with
  | true => cases agreed
  | false => exact shows

theorem start_isWatching (detector : Detector Float) (ids : List SpriteId) (now : Float) :
    (detector.start ids now).1.isWatching = true := by
  simp only [Detector.start]
  split
  · rfl
  · rfl

theorem Shows.play (shows : playback.Shows stage isPlaying) (now : Float) :
    let turn := playback.play stage now
    turn.actor.Shows turn.stage turn.stage.isPlaying := by
  simp only [Playback.play]
  split
  · next plays =>
      rw [shows.stage]
      exact shows
  · split
    · next idle => exact windDown_shows idle _
    · next busy =>
        have plays := runAll_isPlaying playback.engine { stage with isPlaying := true } now
          stage.spriteIds
        refine ⟨rfl, ?_, ?_⟩
        · rw [plays]
          exact start_isWatching playback.detector stage.spriteIds now
        · rw [plays]
          exact Bool.eq_false_iff.mpr busy

theorem stop_shows (playback : Playback) (stage : Stage) (now : Float) :
    let turn := playback.stop stage now
    turn.actor.Shows turn.stage false :=
  windDown_shows (playback.engine.advance_stopAll_isIdle stage now) _

theorem Shows.toggle (shows : playback.Shows stage isPlaying) (now : Float) :
    let turn := playback.toggle stage now
    turn.actor.Shows turn.stage turn.answer := by
  simp only [Playback.toggle]
  split
  · have stopped := playback.stop_shows stage now
    rw [stopped.stage]
    exact stopped
  · exact shows.play now

theorem Shows.frame (shows : playback.Shows stage isPlaying) (now : Float) :
    let turn := playback.frame stage now
    turn.actor.Shows turn.stage turn.answer := by
  have same : (playback.detector.advance (playback.engine.advance stage now).stage
      now).stage.isPlaying = isPlaying := by
    rw [(Detector.advance_stage ..).1, Stage.replay_isPlaying, Engine.advance_isPlaying,
      shows.stage]
  have watching := playback.detector.advance_isWatching (playback.engine.advance stage now).stage
    now
  simp only [Playback.frame]
  split
  · next ends => exact windDown_shows ((Bool.and_eq_true_iff.mp ends).2) _
  · next lasting =>
      rw [same, Bool.and_eq_true_iff, not_and] at lasting
      rw [same]
      refine ⟨same, watching.trans shows.detector, ?_⟩
      cases plays : isPlaying with
      | true => exact Bool.eq_false_iff.mpr (lasting plays)
      | false =>
          -- Nothing runs while the stage does not play, so there is nothing to wind down.
          have idle := shows.engine
          rw [plays] at idle
          exact Engine.advance_isIdle idle stage now

/-! ## Calls -/

inductive Call
  | play (now : Float)
  | stop (now : Float)
  | toggle (now : Float)
  | frame (now : Float)
  | edit (edit : Stage.Edit)

def perform (playback : Playback) (stage : Stage) : Call → Turn Playback Unit
  | .play now => playback.play stage now
  | .stop now => playback.stop stage now
  | .toggle now => { playback.toggle stage now with answer := () }
  | .frame now => { playback.frame stage now with answer := () }
  | .edit edit => ⟨playback, stage.edit edit, (), []⟩

def after (playback : Playback) (stage : Stage) : List Call → Playback × Stage
  | [] => (playback, stage)
  | call :: rest =>
      let turn := playback.perform stage call
      turn.actor.after turn.stage rest

def NeverSetsPlaying (calls : List Call) : Prop :=
  ∀ call ∈ calls, ∀ isPlaying, call ≠ .edit (.setPlaying isPlaying)

theorem ofSettings_shows {settings : Settings} (valid : ofSettings settings = .ok playback)
    (still : stage.isPlaying = false) : playback.Shows stage false := by
  rcases ok_of_bind valid with ⟨detector, built, done⟩
  rcases ok_of_bind built with ⟨_, _, made⟩
  cases done
  cases made
  exact ⟨still, rfl, rfl⟩

theorem Shows.perform (shows : playback.Shows stage isPlaying) {call : Call}
    (notSet : ∀ isPlaying, call ≠ .edit (.setPlaying isPlaying)) :
    let turn := playback.perform stage call
    ∃ isPlaying, turn.actor.Shows turn.stage isPlaying := by
  cases call with
  | play now => exact ⟨_, shows.play now⟩
  | stop now => exact ⟨_, playback.stop_shows stage now⟩
  | toggle now => exact ⟨_, shows.toggle now⟩
  | frame now => exact ⟨_, shows.frame now⟩
  | edit edit =>
      have same : (stage.edit edit).isPlaying = stage.isPlaying :=
        stage.edit_isPlaying fun value equal => notSet value (congrArg Call.edit equal)
      exact ⟨isPlaying, same.trans shows.stage, shows.detector, shows.engine⟩

theorem Shows.after (shows : playback.Shows stage isPlaying) {calls : List Call}
    (neverSets : NeverSetsPlaying calls) :
    ∃ isPlaying, (playback.after stage calls).1.Shows (playback.after stage calls).2 isPlaying := by
  induction calls generalizing playback stage isPlaying with
  | nil => exact ⟨isPlaying, shows⟩
  | cons call rest induction =>
      rcases List.forall_mem_cons.mp neverSets with ⟨first, later⟩
      rcases shows.perform first with ⟨next, nextShows⟩
      exact induction nextShows later

/-- After any calls the three facts agree, and whatever call comes next leaves them
in agreement on its own answer. -/
theorem shows_after_calls {settings : Settings} (valid : ofSettings settings = .ok playback)
    (still : stage.isPlaying = false) {calls : List Call} (neverSets : NeverSetsPlaying calls)
    (now : Float) :
    let last := playback.after stage calls
    let played := last.1.play last.2 now
    let stopped := last.1.stop last.2 now
    let toggled := last.1.toggle last.2 now
    let framed := last.1.frame last.2 now
    (∃ isPlaying, last.1.Shows last.2 isPlaying) ∧
      (played.actor.engine.isIdle = true → played.actor.Shows played.stage false) ∧
      stopped.actor.Shows stopped.stage false ∧
      toggled.actor.Shows toggled.stage toggled.answer ∧
      framed.actor.Shows framed.stage framed.answer := by
  rcases (ofSettings_shows valid still).after neverSets with ⟨isPlaying, shows⟩
  exact ⟨⟨isPlaying, shows⟩, (shows.play now).of_isIdle, stop_shows .., shows.toggle now,
    shows.frame now⟩

/-- A program that is played, stopped half-way by the button and played again. -/
theorem shows_after_calls_button :
    let turn := Block.plain ⟨⟨1⟩, .turnDegrees, [("degrees", ⟨.number, .number 90.0⟩)]⟩
    let calls : List Call := [.edit (.program (.addBlock turn)), .play 0.0, .frame 16.0,
      .edit (.act (.setRunning ⟨1⟩ false)), .toggle 32.0, .edit .addSprite, .play 48.0]
    ∃ playback, ofSettings .standard = .ok playback ∧
      let last := playback.after (.ofSeed 7) calls
      let framed := last.1.frame last.2 64.0
      framed.actor.Shows framed.stage framed.answer := by
  intro turn calls
  have neverSets : NeverSetsPlaying calls := by
    simp [NeverSetsPlaying, calls]
  cases built : ofSettings .standard with
  | ok playback =>
      have still : (Stage.ofSeed 7).isPlaying = false := rfl
      have shows := shows_after_calls built still neverSets 64.0
      exact ⟨playback, rfl, shows.2.2.2.2⟩
  | error fault =>
      have valid : (ofSettings .standard).isOk = true := by decide +kernel
      rw [built] at valid
      cases valid

end Playback

end SpriteScript
