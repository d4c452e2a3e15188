import SpriteScript.Proofs.Run.Plan

namespace SpriteScript.Run

/-! The work that a run has left, counted in calls that drive it. A call at a time that the
run waits for takes some of it, and a call at another time leaves the run where it is. -/

/-! ## Waiting -/

def Wait.isMet (now : Float) : Wait → Bool
  | .ready => true
  | .animating tween => tween.isDone now
  | .speaking _ deadline | .pacing deadline => !decide (now < deadline)

theorem Wait.isMet_of_isOver {wait : Wait} {now : Float} (waited : wait.isOver now) :
    wait.isMet now = true := by
  cases wait with
  | ready => rfl
  | pacing deadline => exact waited
  | animating | speaking => cases waited

/-! ## Work -/

/-- The calls that a wait takes: one to go on, and before that one to come to a pause. -/
def Wait.calls : Wait → Nat
  | .ready | .pacing _ => 1
  | .animating _ | .speaking _ _ => 2

/-- The calls that a task is good for. The start of a repeat block that is entered takes no
call of its own, but its end does. -/
def Task.calls : Task → Nat
  | .start block => if block.isEntered then 1 else 2
  | .leave => 1

def callsOf : List Task → Nat
  | [] => 0
  | task :: rest => task.calls + callsOf rest

def work (run : Run) : Nat := run.wait.calls + callsOf run.plan

theorem callsOf_cons (task : Task) (rest : List Task) :
    callsOf (task :: rest) = task.calls + callsOf rest := rfl

theorem callsOf_append (left right : List Task) :
    callsOf (left ++ right) = callsOf left + callsOf right := by
  induction left with
  | nil => exact (Nat.zero_add _).symm
  | cons task rest induction =>
      rw [List.cons_append, callsOf_cons, callsOf_cons, induction, Nat.add_assoc]

theorem callsOf_rounds (rounds : Nat) (tasks : List Task) :
    callsOf (List.replicate rounds tasks).flatten = rounds * callsOf tasks := by
  induction rounds with
  | zero => simp [callsOf]
  | succ rounds induction =>
      rw [List.replicate_succ, List.flatten_cons, callsOf_append, induction, Nat.succ_mul,
        Nat.add_comm]

theorem Wait.calls_of_isOver {wait : Wait} {now : Float} (waited : wait.isOver now) :
    wait.calls = 1 := by
  cases wait with
  | ready | pacing => rfl
  | animating | speaking => cases waited

theorem Wait.calls_pos (wait : Wait) : 0 < wait.calls := by
  cases wait <;> exact Nat.zero_lt_succ _

theorem Wait.calls_le (wait : Wait) : wait.calls ≤ 2 := by
  cases wait <;> simp [calls]

theorem work_pos (run : Run) : 0 < run.work := Nat.add_pos_left run.wait.calls_pos _

mutual

theorem callsOf_plan : ∀ block : Block, callsOf block.plan = 2 * block.unfold.length
  | .plain head => rfl
  | .container head children => by
      cases entered : Block.isEntered (.container head children) with
      | true =>
          have start : Task.calls (.start (.container head children)) = 1 := if_pos entered
          have leave : callsOf [.leave] = 1 := rfl
          simp only [Block.plan, entered, if_true, callsOf_cons, callsOf_append, callsOf_rounds,
            start, leave, callsOf_plans children]
          simp only [Block.unfold, List.length_cons, List.length_flatten, List.map_replicate,
            List.sum_replicate_nat, Nat.mul_left_comm _ 2]
          omega
      | false =>
          rw [Block.plan_of_not_isEntered entered, Block.unfold_of_not_isEntered entered]
          simp [callsOf, Task.calls, entered]

theorem callsOf_plans : ∀ blocks : List Block,
    callsOf (Block.plans blocks) = 2 * (Block.unfolds blocks).length
  | [] => rfl
  | block :: rest => by
      rw [Block.plans, callsOf_append, callsOf_plan block, callsOf_plans rest, Block.unfolds,
        List.length_append, Nat.mul_add]

end

theorem work_ofProgram (program : List Block) :
    (ofProgram program).work = 2 * (Block.unfolds program).length + 1 := by
  rw [work, plan_ofProgram, callsOf_plans, Nat.add_comm]
  rfl

theorem work_cancel (run : Run) : run.cancel.work = run.work := rfl

/-! ## Driving -/

variable {run : Run} {scene : Scene} {driven : Driven}

theorem Starting.callsOf_lt {frames : List Frame} {block : Block} {started : Started}
    (starting : Starting scene frames block started) (inside : frames ≠ []) :
    2 + callsOf (Run.planIn started.frames) ≤ callsOf (block.plan ++ Run.planIn frames) := by
  rcases starting.planIn inside with ⟨outer, last, _, _, single, _, _, tasks⟩
  have start : Task.calls (.start last) = 2 := by rw [Task.calls, single]; rfl
  rw [tasks, callsOf_append, callsOf_cons, start]
  exact Nat.le_add_left _ _

theorem Driving.work_lt (driving : Driving run scene driven) (going : driven.status = .going)
    (met : run.wait.isMet scene.now = true) : driven.run.work < run.work := by
  cases driving with
  | cancelled => cases going
  | started block frames started wait free waited found starting waits =>
      rcases planIn_next_block found with ⟨front, inside⟩
      have taken := starting.callsOf_lt inside
      have atMost := wait.calls_le
      simp only [work, plan, Wait.calls_of_isOver waited, front]
      omega
  | failed => cases going
  | passesDone frames free waited found =>
      simp only [work, plan, Wait.calls_of_isOver waited, planIn_next_passesDone found,
        callsOf_cons]
      exact Nat.add_lt_add_left (Nat.lt_add_of_pos_left Nat.zero_lt_one) 1
  | programDone => cases going
  | sampled tween free moving =>
      have done : tween.isDone scene.now = true := by rwa [moving] at met
      simp only [work, plan, moving, done, if_true]
      exact Nat.add_lt_add_right Nat.one_lt_two _
  | cleared bubble deadline free speaking late =>
      simp only [work, plan, speaking]
      exact Nat.add_lt_add_right Nat.one_lt_two _
  | waiting free early =>
      rcases early with ⟨bubble, deadline, waits, early⟩ | ⟨deadline, waits, early⟩
      · simp [waits, Wait.isMet, early] at met
      · simp [waits, Wait.isMet, early] at met

/-- A run that is driven at a time that it does not wait for stays where it is. -/
theorem Driving.eq_of_unmet (driving : Driving run scene driven) (free : run.isCancelled = false)
    (unmet : run.wait.isMet scene.now = false) : driven.status = .going ∧ driven.run = run := by
  have notOver (waited : run.wait.isOver scene.now) : False := by
    rw [Wait.isMet_of_isOver waited] at unmet
    cases unmet
  cases driving with
  | cancelled marked =>
      rw [marked] at free
      cases free
  | started _ _ _ _ _ waited => exact (notOver waited).elim
  | failed _ _ _ _ _ waited => exact (notOver waited).elim
  | passesDone _ _ waited => exact (notOver waited).elim
  | programDone _ waited => exact (notOver waited).elim
  | sampled tween _ moving =>
      have undone : tween.isDone scene.now = false := by rwa [moving] at unmet
      simp [undone]
  | cleared bubble deadline _ speaking late => simp [speaking, Wait.isMet, late] at unmet
  | waiting => exact ⟨rfl, rfl⟩

end SpriteScript.Run
