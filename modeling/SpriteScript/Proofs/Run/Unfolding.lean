import SpriteScript.Proofs.Run.Driving

namespace SpriteScript.Run

/-! Frames as the blocks that are still to come. The frames of a run stand for a
list of blocks, and each drive takes the blocks that it starts from the front of
that list. So the stack of frames is plain recursion over the tree of blocks. -/

/-- The blocks that a frame still starts: those of the rest of its pass, and those
of the whole body for each later pass. -/
def Frame.remaining (frame : Frame) : List Block :=
  Block.unfolds frame.rest ++
    (List.replicate (frame.passesLeft - 1) (Block.unfolds frame.body)).flatten

def remainingIn (frames : List Frame) : List Block := frames.flatMap Frame.remaining

def remaining (run : Run) : List Block := remainingIn run.frames

@[simp] theorem remainingIn_nil : remainingIn [] = [] := rfl

@[simp] theorem remainingIn_cons (frame : Frame) (outer : List Frame) :
    remainingIn (frame :: outer) = frame.remaining ++ remainingIn outer := rfl

theorem remaining_ofProgram (program : List Block) :
    (ofProgram program).remaining = Block.unfolds program := by
  simp [remaining, ofProgram, Frame.remaining]

/-! ## The next block -/

theorem remainingIn_next_block {frames rest : List Frame} {block : Block}
    (found : next frames = .block block rest) :
    remainingIn frames = block.unfold ++ remainingIn rest := by
  cases finding_of_next found with
  | inPass body block rest passesLeft outer => simp [Frame.remaining, Block.unfolds]
  | nextPass block rest passes outer =>
      -- One copy of the body is opened up.
      simp [Frame.remaining, Block.unfolds, List.replicate_succ]

theorem Frame.IsOver.remaining_eq_nil {frame : Frame} (isOver : frame.IsOver) :
    frame.remaining = [] := by
  rcases isOver with ⟨atEnd, none | last⟩
  · simp [remaining, atEnd, none, Block.unfolds]
  · simp [remaining, atEnd, Nat.sub_eq_zero_of_le last, Block.unfolds]

theorem remainingIn_next_passesDone {frames rest : List Frame}
    (found : next frames = .passesDone rest) : remainingIn frames = remainingIn rest := by
  cases finding_of_next found with
  | passesDone frame outer isOver =>
      rw [remainingIn_cons, isOver.remaining_eq_nil, List.nil_append]

theorem remainingIn_next_programDone {frames : List Frame}
    (found : next frames = .programDone) : remainingIn frames = [] := by
  cases finding_of_next found with
  | noFrame => rfl
  | programDone frame isOver =>
      rw [remainingIn_cons, isOver.remaining_eq_nil, remainingIn_nil, List.append_nil]

/-! ## Started blocks -/

theorem Opening.startedBlocks {scene : Scene} {block : Block} {wait : Except Fault Wait}
    {trace : Trace} (opening : Opening scene block (wait, trace)) : trace.startedBlocks = [] := by
  cases opening with
  | idle _ told =>
      apply List.filterMap_eq_nil_iff.mpr
      intro event member
      have skip := told event member
      cases event <;> simp_all [Event.isSkip, Event.startedBlock?]
  | _ => rfl

theorem unfold_of_rounds (frames : List Frame) {head : Block.Head} {first : Block}
    {rest : List Block} (going : 0 < Block.rounds (.container head (first :: rest))) :
    (Block.container head (first :: rest)).unfold ++ remainingIn frames =
      .container head (first :: rest) :: (first.unfold ++ remainingIn
        (⟨first :: rest, rest, Block.rounds (.container head (first :: rest))⟩ :: frames)) := by
  rcases Nat.exists_eq_add_one_of_ne_zero (Nat.ne_of_gt going) with ⟨passes, rounds⟩
  rw [rounds]
  simp [Block.unfold, Block.unfolds, rounds, Frame.remaining, List.replicate_succ]

/-- The start of a block: what it starts at once, and what the frames start from
then on, is the unfolding of the block before all that was there. -/
theorem Starting.remainingIn {scene : Scene} {frames : List Frame} {block : Block}
    {started : Started} (starting : Starting scene frames block started) :
    started.trace.startedBlocks ++ Run.remainingIn started.frames =
      block.unfold ++ Run.remainingIn frames := by
  induction starting with
  | alone frames block wait trace single opening =>
      have only : Trace.startedBlocks (.blockStarted scene.id block :: trace) =
          block :: trace.startedBlocks := rfl
      rw [only, opening.startedBlocks, Block.unfold_of_not_isEntered single]
  | entered frames head first rest inner going starting induction =>
      have also : Trace.startedBlocks (.blockStarted scene.id (.container head (first :: rest)) ::
          inner.trace) = .container head (first :: rest) :: inner.trace.startedBlocks := rfl
      rw [also, List.cons_append, induction, unfold_of_rounds frames going]

/-! ## Driving -/

theorem Driving.remaining_of_going {run : Run} {scene : Scene} {driven : Driven}
    (driving : Driving run scene driven) (going : driven.status = .going) :
    driven.trace.startedBlocks ++ driven.run.remaining = run.remaining := by
  cases driving with
  | cancelled => cases going
  | started block frames started wait free waited found starting =>
      exact starting.remainingIn.trans (remainingIn_next_block found).symm
  | failed => cases going
  | passesDone frames free waited found => exact (remainingIn_next_passesDone found).symm
  | programDone => cases going
  | sampled => rfl
  | cleared => rfl
  | waiting => rfl

theorem startedBlocks_abandon (run : Run) (id : SpriteId) :
    (run.abandon id).startedBlocks = [] := by
  rw [abandon]
  cases run.wait <;> rfl

theorem Driving.startedBlocks_inOrder {run : Run} {scene : Scene} {driven : Driven}
    (driving : Driving run scene driven) : driven.trace.startedBlocks <+: run.remaining := by
  cases driving with
  | cancelled =>
      have none : Trace.startedBlocks (.runStopped scene.id run.startedCount ::
          run.abandon scene.id) = [] := run.startedBlocks_abandon scene.id
      rw [none]
      exact ⟨_, rfl⟩
  | started block frames started wait free waited found starting =>
      rw [remaining, remainingIn_next_block found, ← starting.remainingIn]
      exact List.prefix_append _ _
  | failed block frames started fault free waited found starting =>
      rw [remaining, remainingIn_next_block found, ← starting.remainingIn]
      exact List.prefix_append _ _
  | _ => exact ⟨_, rfl⟩

theorem Driving.remaining_of_ended {run : Run} {scene : Scene} {driven : Driven}
    (driving : Driving run scene driven) (free : run.isCancelled = false)
    (ended : driven.status = .ended) : driven.trace.startedBlocks = run.remaining := by
  cases driving with
  | cancelled marked => rw [marked] at free; cases free
  | programDone _ waited found => exact (remainingIn_next_programDone found).symm
  | _ => cases ended

end SpriteScript.Run
