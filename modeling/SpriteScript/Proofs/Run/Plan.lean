import SpriteScript.Proofs.Run.Unfolding

namespace SpriteScript

/-! Plans. A plan lists what a program asks of a run, call after call: the blocks of its
unfolding, and the end of each repeat block that was entered, which has a pause of its own.
The frames of a run stand for a plan, and each drive takes its tasks from the front. -/

/-- What a run does when it may go on: it starts a block, or comes to the end of a repeat
block that it entered. -/
inductive Run.Task
  | start (block : Block)
  | leave

def Run.Task.block? : Run.Task → Option Block
  | .start block => some block
  | .leave => none

namespace Block

mutual

def plan : Block → List Run.Task
  | .plain head => [.start (.plain head)]
  | .container head children =>
      let block := Block.container head children
      if block.isEntered then
        .start block :: ((List.replicate block.rounds (plans children)).flatten ++ [.leave])
      else
        [.start block]

def plans : List Block → List Run.Task
  | [] => []
  | block :: rest => block.plan ++ plans rest

end

theorem plan_of_not_isEntered {block : Block} (alone : block.isEntered = false) :
    block.plan = [.start block] := by
  cases block with
  | plain head => rfl
  | container head children => simp [plan, alone]

theorem isEntered_of_rounds {head : Block.Head} {first : Block} {rest : List Block}
    (going : 0 < rounds (.container head (first :: rest))) :
    isEntered (.container head (first :: rest)) = true := by
  simp [isEntered, going]

/-! ## The blocks of a plan -/

mutual

theorem blocks_plan : ∀ block : Block, block.plan.filterMap Run.Task.block? = block.unfold
  | .plain head => rfl
  | .container head children => by
      cases entered : isEntered (.container head children) with
      | true =>
          simp [plan, entered, unfold, Run.Task.block?, blocks_plans children]
      | false =>
          rw [plan_of_not_isEntered entered, unfold_of_not_isEntered entered]
          rfl

theorem blocks_plans : ∀ blocks : List Block,
    (plans blocks).filterMap Run.Task.block? = unfolds blocks
  | [] => rfl
  | block :: rest => by
      rw [plans, List.filterMap_append, blocks_plan block, blocks_plans rest, unfolds]

end

end Block

namespace Run

/-! ## The start of a block -/

variable {scene : Scene}

theorem start_of_not_isEntered {block : Block} (single : block.isEntered = false)
    (frames : List Frame) :
    start scene frames block =
      ⟨frames, (startAlone scene block).1,
        .blockStarted scene.id block :: (startAlone scene block).2⟩ := by
  cases block with
  | plain head => rw [start]
  | container head children =>
      cases children with
      | nil => rw [start]
      | cons first rest =>
          rw [start]
          refine if_neg fun going => ?_
          have rounds : Block.rounds (.container head (first :: rest)) =
              Block.passes (.container head (first :: rest)) := if_pos going.1
          have entered := Block.isEntered_of_rounds (rounds ▸ going.2)
          rw [single] at entered
          cases entered

theorem start_of_rounds {head : Block.Head} {first : Block} {rest : List Block}
    (going : 0 < Block.rounds (.container head (first :: rest))) (frames : List Frame) :
    let block := Block.container head (first :: rest)
    let inner := start scene (⟨first :: rest, rest, block.rounds⟩ :: frames) first
    start scene frames block =
      { inner with trace := .blockStarted scene.id block :: inner.trace } := by
  intro block inner
  have kind : head.kind = .repeatTimes := Block.kind_of_rounds going
  have rounds : block.rounds = block.passes := if_pos kind
  have enters : head.kind = .repeatTimes ∧ 0 < block.passes := ⟨kind, rounds ▸ going⟩
  rw [start, if_pos enters, ← rounds]

/-! ## The plan of a run -/

def Frame.plan (frame : Frame) : List Task :=
  Block.plans frame.rest ++
    (List.replicate (frame.passesLeft - 1) (Block.plans frame.body)).flatten

/-- The tasks of frames, the innermost frame first. A frame inside of another one is left
at its end; the end of the outermost one is the end of the run. -/
def planIn : List Frame → List Task
  | [] => []
  | [frame] => frame.plan
  | frame :: outer => frame.plan ++ .leave :: planIn outer

def plan (run : Run) : List Task := planIn run.frames

theorem planIn_cons (frame : Frame) {outer : List Frame} (inside : outer ≠ []) :
    planIn (frame :: outer) = frame.plan ++ .leave :: planIn outer := by
  cases outer with
  | nil => exact absurd rfl inside
  | cons => rfl

theorem plan_ofProgram (program : List Block) :
    (ofProgram program).plan = Block.plans program := by
  simp [plan, ofProgram, planIn, Frame.plan]

theorem planIn_congr {frame other : Frame} {tasks : List Task} (outer : List Frame)
    (same : frame.plan = tasks ++ other.plan) :
    planIn (frame :: outer) = tasks ++ planIn (other :: outer) := by
  cases outer with
  | nil => exact same
  | cons => simp [planIn, same]

theorem planIn_next_block {frames rest : List Frame} {block : Block}
    (found : next frames = .block block rest) :
    planIn frames = block.plan ++ planIn rest ∧ rest ≠ [] := by
  cases finding_of_next found with
  | inPass body block rest passesLeft outer =>
      refine ⟨planIn_congr outer ?_, List.cons_ne_nil _ _⟩
      simp [Frame.plan, Block.plans]
  | nextPass block rest passes outer =>
      -- One copy of the body is opened up.
      refine ⟨planIn_congr outer ?_, List.cons_ne_nil _ _⟩
      simp [Frame.plan, Block.plans, List.replicate_succ]

theorem Frame.IsOver.plan_eq_nil {frame : Frame} (isOver : frame.IsOver) : frame.plan = [] := by
  rcases isOver with ⟨atEnd, none | last⟩
  · simp [plan, atEnd, none, Block.plans]
  · simp [plan, atEnd, Nat.sub_eq_zero_of_le last, Block.plans]

theorem planIn_next_passesDone {frames rest : List Frame}
    (found : next frames = .passesDone rest) : planIn frames = .leave :: planIn rest := by
  cases finding_of_next found with
  | passesDone frame outer isOver inside =>
      rw [planIn_cons frame inside, isOver.plan_eq_nil, List.nil_append]

theorem planIn_next_programDone {frames : List Frame} (found : next frames = .programDone) :
    planIn frames = [] := by
  cases finding_of_next found with
  | noFrame => rfl
  | programDone frame isOver => exact isOver.plan_eq_nil

theorem plan_of_rounds {frames : List Frame} (inside : frames ≠ []) {head : Block.Head}
    {first : Block} {rest : List Block}
    (going : 0 < Block.rounds (.container head (first :: rest))) :
    (Block.container head (first :: rest)).plan ++ planIn frames =
      .start (.container head (first :: rest)) :: (first.plan ++ planIn
        (⟨first :: rest, rest, Block.rounds (.container head (first :: rest))⟩ :: frames)) := by
  have entered := Block.isEntered_of_rounds going
  rcases Nat.exists_eq_add_one_of_ne_zero (Nat.ne_of_gt going) with ⟨passes, rounds⟩
  rw [planIn_cons _ inside, rounds]
  simp [Block.plan, entered, Block.plans, rounds, Frame.plan, List.replicate_succ]

/-- The start of a block takes repeat blocks that are entered from the plan, and then the
block that opens. -/
theorem Starting.planIn {frames : List Frame} {block : Block} {started : Started}
    (starting : Starting scene frames block started) (inside : frames ≠ []) :
    ∃ outer last trace, (∀ block ∈ outer, Block.isEntered block = true) ∧
      last.isEntered = false ∧ Opening scene last (started.wait, trace) ∧
      started.trace = (outer ++ [last]).map (.blockStarted scene.id) ++ trace ∧
      block.plan ++ Run.planIn frames =
        outer.map .start ++ .start last :: Run.planIn started.frames := by
  induction starting with
  | alone frames block wait trace single opening =>
      refine ⟨[], block, trace, List.forall_mem_nil _, single, opening, rfl, ?_⟩
      rw [Block.plan_of_not_isEntered single]
      rfl
  | entered frames head first rest inner going starting induction =>
      rcases induction (List.cons_ne_nil _ _) with
        ⟨outer, last, trace, entered, single, opening, told, tasks⟩
      refine ⟨.container head (first :: rest) :: outer, last, trace, ?_, single, opening, ?_, ?_⟩
      · exact List.forall_mem_cons.mpr ⟨Block.isEntered_of_rounds going, entered⟩
      · rw [told]
        rfl
      · rw [plan_of_rounds inside going, tasks]
        rfl

end Run

end SpriteScript
