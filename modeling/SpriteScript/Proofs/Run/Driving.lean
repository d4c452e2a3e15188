import SpriteScript.Proofs.Run.Opening

namespace SpriteScript.Run

/-! The ways in which a run can move on, told once. -/

/-! ## The next block -/

def Frame.IsOver (frame : Frame) : Prop :=
  frame.rest = [] ∧ (frame.body = [] ∨ frame.passesLeft ≤ 1)

inductive Finding : List Frame → Next → Prop
  | noFrame : Finding [] .programDone
  | inPass (body : List Block) (block : Block) (rest : List Block) (passesLeft : Nat)
      (outer : List Frame) :
      Finding (⟨body, block :: rest, passesLeft⟩ :: outer)
        (.block block (⟨body, rest, passesLeft⟩ :: outer))
  | nextPass (block : Block) (rest : List Block) (passes : Nat) (outer : List Frame) :
      Finding (⟨block :: rest, [], passes + 2⟩ :: outer)
        (.block block (⟨block :: rest, rest, passes + 1⟩ :: outer))
  | passesDone (frame : Frame) (outer : List Frame) (isOver : frame.IsOver)
      (inside : outer ≠ []) : Finding (frame :: outer) (.passesDone outer)
  | programDone (frame : Frame) (isOver : frame.IsOver) : Finding [frame] .programDone

theorem next_of_isOver {frame : Frame} (isOver : frame.IsOver) (outer : List Frame) :
    next (frame :: outer) = if outer.isEmpty then .programDone else .passesDone outer := by
  rcases frame with ⟨body, rest, passesLeft⟩
  rcases isOver with ⟨rfl, rfl | last⟩
  · rfl
  · match passesLeft with
    | 0 | 1 => cases body <;> rfl
    | passes + 2 => exact absurd last (Nat.not_le.mpr (Nat.le_add_left 2 passes))

theorem finding_of_isOver {frame : Frame} (isOver : frame.IsOver) (outer : List Frame) :
    Finding (frame :: outer) (next (frame :: outer)) := by
  rw [next_of_isOver isOver]
  cases outer with
  | nil => exact .programDone frame isOver
  | cons first rest => exact .passesDone frame (first :: rest) isOver (List.cons_ne_nil _ _)

theorem next_finding : ∀ frames : List Frame, Finding frames (next frames)
  | [] => .noFrame
  | ⟨body, block :: rest, passesLeft⟩ :: outer => .inPass body block rest passesLeft outer
  | ⟨block :: rest, [], passes + 2⟩ :: outer => .nextPass block rest passes outer
  | ⟨[], [], _⟩ :: outer => finding_of_isOver ⟨rfl, .inl rfl⟩ outer
  | ⟨_, [], 0⟩ :: outer => finding_of_isOver ⟨rfl, .inr (Nat.zero_le 1)⟩ outer
  | ⟨_, [], 1⟩ :: outer => finding_of_isOver ⟨rfl, .inr (Nat.le_refl 1)⟩ outer

theorem finding_of_next {frames : List Frame} {found : Next} (same : next frames = found) :
    Finding frames found :=
  same ▸ next_finding frames

/-! ## Driving -/

def Wait.isOver (now : Float) : Wait → Bool
  | .ready => true
  | .pacing deadline => !decide (now < deadline)
  | .animating _ | .speaking _ _ => false

/-- How a run moves on when it is driven. -/
inductive Driving (run : Run) (scene : Scene) : Driven → Prop
  | cancelled (marked : run.isCancelled = true) :
      Driving run scene
        ⟨{ run with frames := [], wait := .ready }, .ended,
          .runStopped scene.id run.startedCount :: run.abandon scene.id⟩
  | started (block : Block) (frames : List Frame) (started : Started) (wait : Wait)
      (free : run.isCancelled = false) (waited : run.wait.isOver scene.now)
      (found : next run.frames = .block block frames)
      (starting : Starting scene frames block started) (waits : started.wait = .ok wait) :
      Driving run scene
        ⟨{ run with
            frames := started.frames
            wait
            startedCount := run.startedCount + started.trace.startedBlocks.length },
          .going, started.trace⟩
  | failed (block : Block) (frames : List Frame) (started : Started) (fault : Fault)
      (free : run.isCancelled = false) (waited : run.wait.isOver scene.now)
      (found : next run.frames = .block block frames)
      (starting : Starting scene frames block started) (fails : started.wait = .error fault) :
      Driving run scene
        ⟨{ run with
            frames := []
            wait := .ready
            startedCount := run.startedCount + started.trace.startedBlocks.length },
          .failed fault, started.trace⟩
  | passesDone (frames : List Frame) (free : run.isCancelled = false)
      (waited : run.wait.isOver scene.now) (found : next run.frames = .passesDone frames) :
      Driving run scene ⟨{ run with frames, wait := scene.pause }, .going, []⟩
  | programDone (free : run.isCancelled = false) (waited : run.wait.isOver scene.now)
      (found : next run.frames = .programDone) :
      Driving run scene ⟨{ run with frames := [], wait := .ready }, .ended, []⟩
  | sampled (tween : Tween Float Float32) (free : run.isCancelled = false)
      (moving : run.wait = .animating tween) :
      Driving run scene
        ⟨{ run with wait := if tween.isDone scene.now then scene.pause else run.wait }, .going,
          [.acted ((tween.sample scene.now).toAction scene.id)]⟩
  | cleared (bubble : Bubble) (deadline : Float) (free : run.isCancelled = false)
      (speaking : run.wait = .speaking bubble deadline) (late : ¬scene.now < deadline) :
      Driving run scene
        ⟨{ run with wait := scene.pause }, .going, [.acted (bubble.clear scene.id)]⟩
  | waiting (free : run.isCancelled = false)
      (early : (∃ bubble deadline, run.wait = .speaking bubble deadline ∧ scene.now < deadline) ∨
        ∃ deadline, run.wait = .pacing deadline ∧ scene.now < deadline) :
      Driving run scene ⟨run, .going, []⟩

variable {run : Run} {scene : Scene}

theorem proceed_driving (free : run.isCancelled = false) (waited : run.wait.isOver scene.now) :
    Driving run scene (run.proceed scene) := by
  rw [proceed]
  cases found : next run.frames with
  | block block frames =>
      have starting := start_starting scene frames block
      dsimp only
      cases waits : (start scene frames block).wait with
      | ok wait => exact .started block frames _ wait free waited found starting waits
      | error fault => exact .failed block frames _ fault free waited found starting waits
  | passesDone frames => exact .passesDone frames free waited found
  | programDone => exact .programDone free waited found

theorem drive_driving (run : Run) (scene : Scene) : Driving run scene (run.drive scene) := by
  rw [drive]
  by_cases marked : run.isCancelled = true
  · rw [if_pos marked]
    exact .cancelled marked
  · rw [if_neg marked]
    have free : run.isCancelled = false := Bool.eq_false_iff.mpr marked
    split
    · next ready => exact proceed_driving free (by rw [ready]; rfl)
    · next tween moving => exact .sampled tween free moving
    · next bubble deadline speaking =>
        by_cases early : scene.now < deadline
        · rw [if_pos early]
          exact .waiting free (.inl ⟨bubble, deadline, speaking, early⟩)
        · rw [if_neg early]
          exact .cleared bubble deadline free speaking early
    · next deadline pacing =>
        by_cases early : scene.now < deadline
        · rw [if_pos early]
          exact .waiting free (.inr ⟨deadline, pacing, early⟩)
        · rw [if_neg early]
          exact proceed_driving free (by simp [pacing, Wait.isOver, early])

end SpriteScript.Run
