import SpriteScript.Play.Detector
import SpriteScript.Proofs.Stage.Edit

namespace SpriteScript

/-! The calls of a detector. All that a detector does to a stage is to trade
programs and to take and release locks. -/

def Trace.IsNameless (trace : Trace) : Prop := ∀ event ∈ trace, event.sprite? = none

namespace Trace

theorem IsNameless.append {left right : Trace} (leftNameless : left.IsNameless)
    (rightNameless : right.IsNameless) : IsNameless (left ++ right) := by
  intro event member
  rcases List.mem_append.mp member with inLeft | inRight
  · exact leftNameless event inLeft
  · exact rightNameless event inRight

theorem IsNameless.sprite?_ne {trace : Trace} (nameless : trace.IsNameless) (id : SpriteId) :
    ∀ action ∈ trace.actions, action.sprite? ≠ some id := by
  intro action member named
  have none : action.sprite? = none := nameless _ (mem_actions.mp member)
  rw [none] at named
  cases named

end Trace

namespace Detector

inductive Call
  | start (sprites : List SpriteId) (now : Float)
  | stop
  | scan (now : Float)
  | advance (now : Float)

def perform (detector : Detector Float) (stage : Stage) : Call → Turn (Detector Float) Unit
  | .start sprites now =>
      let (detector, trace) := detector.start sprites now
      ⟨detector, stage, (), trace⟩
  | .stop =>
      let (detector, trace) := detector.stop
      ⟨detector, stage, (), trace⟩
  | .scan now => { detector.scan stage now with answer := () }
  | .advance now => { detector.advance stage now with answer := () }

/-! ## Scanning -/

section Scan

variable {Time : Type} [Clock Time]

theorem collide_stage (detector : Detector Time) (stage : Stage) (now : Time)
    (left right : SpriteId) :
    let turn := detector.collide stage now left right
    turn.stage = stage.replay turn.trace ∧ turn.trace.IsNameless := by
  simp only [collide]
  split
  · exact ⟨rfl, List.forall_mem_nil _⟩
  · refine ⟨rfl, ?_⟩
    intro event member
    simp only [List.mem_cons, List.not_mem_nil, or_false] at member
    rcases member with locked | traded | told
    · rw [locked]
      rfl
    · rw [traded]
      rfl
    · rw [told]
      rfl

theorem collideAll_stage (detector : Detector Time) (stage : Stage) (now : Time)
    (pairs : List (SpriteId × SpriteId)) :
    let turn := detector.collideAll stage now pairs
    turn.stage = stage.replay turn.trace ∧ turn.trace.IsNameless := by
  induction pairs generalizing detector stage with
  | nil => exact ⟨rfl, List.forall_mem_nil _⟩
  | cons pair rest induction =>
      rcases pair with ⟨left, right⟩
      have first := detector.collide_stage stage now left right
      have others := induction (detector.collide stage now left right).actor
        (detector.collide stage now left right).stage
      simp only [collideAll]
      refine ⟨?_, first.2.append others.2⟩
      rw [others.1, first.1, Stage.replay_append]

theorem collideAll_watch (detector : Detector Time) (stage : Stage) (now : Time)
    (pairs : List (SpriteId × SpriteId)) :
    (detector.collideAll stage now pairs).actor.watch = detector.watch := by
  induction pairs generalizing detector stage with
  | nil => rfl
  | cons pair rest induction =>
      rcases pair with ⟨left, right⟩
      simp only [collideAll, induction, collide]
      split <;> rfl

theorem scan_stage (detector : Detector Time) (stage : Stage) (now : Time) :
    let turn := detector.scan stage now
    turn.stage = stage.replay turn.trace ∧ turn.trace.IsNameless :=
  detector.collideAll_stage stage now _

theorem scan_watch (detector : Detector Time) (stage : Stage) (now : Time) :
    (detector.scan stage now).actor.watch = detector.watch :=
  detector.collideAll_watch stage now _

/-! ## Advancing -/

theorem release_watch (detector : Detector Time) (now : Time) :
    (detector.release now).1.watch = detector.watch := rfl

theorem release_isNameless (detector : Detector Time) (now : Time) :
    (detector.release now).2.IsNameless := by
  intro event member
  rcases List.mem_flatMap.mp member with ⟨entry, _, told⟩
  simp only [List.mem_cons, List.not_mem_nil, or_false] at told
  rcases told with unlocked | told
  · rw [unlocked]
    rfl
  · rw [told]
    rfl

theorem advance_stage (detector : Detector Time) (stage : Stage) (now : Time) :
    let turn := detector.advance stage now
    turn.stage = stage.replay turn.trace ∧ turn.trace.IsNameless := by
  have released := detector.release_isNameless now
  simp only [advance]
  split
  · split
    · rw [Stage.replay_append, (scan_stage ..).1]
      exact ⟨rfl, released.append (scan_stage ..).2⟩
    · exact ⟨rfl, released⟩
  · exact ⟨rfl, released⟩

theorem advance_isWatching (detector : Detector Time) (stage : Stage) (now : Time) :
    (detector.advance stage now).actor.isWatching = detector.isWatching := by
  simp only [advance]
  split
  · next watch found =>
      have watching : detector.isWatching = true := by
        rw [isWatching, ← detector.release_watch now, found]
        rfl
      rw [watching]
      split
      · rw [isWatching, scan_watch]
        rfl
      · rw [isWatching, found]
        rfl
  · rfl

end Scan

/-- A call changes the stage by its trace alone, which is about no sprite. -/
theorem perform_stage (detector : Detector Float) (stage : Stage) (call : Call) :
    let turn := detector.perform stage call
    turn.stage = stage.replay turn.trace ∧ turn.trace.IsNameless := by
  cases call with
  | start sprites now =>
      simp only [perform, start]
      split
      · exact ⟨rfl, List.forall_mem_singleton.mpr rfl⟩
      · exact ⟨rfl, List.forall_mem_singleton.mpr rfl⟩
  | stop =>
      simp only [perform, stop]
      split
      · exact ⟨rfl, List.forall_mem_singleton.mpr rfl⟩
      · exact ⟨rfl, List.forall_mem_nil _⟩
  | scan now => exact detector.scan_stage stage now
  | advance now => exact detector.advance_stage stage now

end Detector

end SpriteScript
