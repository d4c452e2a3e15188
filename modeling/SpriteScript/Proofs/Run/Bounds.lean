import SpriteScript.Proofs.Block.RoundTrip
import SpriteScript.Proofs.Run.Finite
import SpriteScript.Proofs.Run.Plan

namespace SpriteScript

/-! What one drive of a run comes to at most, even if nothing takes any time. A drive is a loop
of moves, and the loop is over after two moves more than there are blocks that start. All of
these but the last one are repeat blocks that are entered, each of them the first child of the
one before. -/

namespace Block

/-! ## First children -/

def firstChild? (block : Block) : Option Block := block.children?.bind List.head?

def AreNested (blocks : List Block) : Prop :=
  blocks.IsChain fun outer inner => outer.firstChild? = some inner

theorem depth_firstChild {outer inner : Block} (first : outer.firstChild? = some inner) :
    inner.depth < outer.depth := by
  match outer with
  | .container head (child :: rest) =>
      cases first
      rw [depth, depths]
      omega
  | .container head [] => cases first
  | .plain head => cases first

theorem length_le_depth {first : Block} {later : List Block}
    (nested : AreNested (first :: later)) : (first :: later).length ≤ first.depth := by
  induction later generalizing first with
  | nil => exact first.depth_pos
  | cons next later induction =>
      rcases List.isChain_cons_cons.mp nested with ⟨child, nestedLater⟩
      exact Nat.lt_of_le_of_lt (induction nestedLater) (depth_firstChild child)

end Block

namespace Run

variable {run : Run} {scene : Scene}

/-! ## Moves -/

inductive Move
  | halt (driven : Driven)
  | again (run : Run) (trace : Trace)

def Started.driven (started : Started) (run : Run) : Driven :=
  let startedCount := run.startedCount + started.trace.startedBlocks.length
  match started.wait with
  | .ok wait =>
      ⟨{ run with frames := started.frames, wait, startedCount }, .going, started.trace⟩
  | .error fault =>
      ⟨{ run with frames := [], wait := .ready, startedCount }, .failed fault, started.trace⟩

/-- The move that starts a block, which has been taken from the frames. A repeat block that is
entered just adds a frame. -/
def startMove (run : Run) (scene : Scene) (block : Block) (frames : List Frame) : Move :=
  if block.isEntered then
    let children := block.children?.getD []
    .again
      { run with
        frames := ⟨children, children, block.rounds⟩ :: frames
        startedCount := run.startedCount + 1 }
      [.blockStarted scene.id block]
  else
    let (wait, trace) := startAlone scene block
    .halt (Started.driven ⟨frames, wait, .blockStarted scene.id block :: trace⟩ run)

def readyMove (run : Run) (scene : Scene) : Move :=
  match run.frames with
  | [] => .halt ⟨{ run with frames := [], wait := .ready }, .ended, []⟩
  | frame :: outer =>
      match frame.rest with
      | block :: rest => run.startMove scene block ({ frame with rest } :: outer)
      | [] =>
          if 1 < frame.passesLeft then
            let next := { frame with rest := frame.body, passesLeft := frame.passesLeft - 1 }
            .again { run with frames := next :: outer } []
          else if outer.isEmpty then
            .halt ⟨{ run with frames := [], wait := .ready }, .ended, []⟩
          else
            .halt ⟨{ run with frames := outer, wait := scene.pause }, .going, []⟩

/-- One turn of the loop that drives a run, or of the loop inside of it that looks for the next
block. -/
def move (run : Run) (scene : Scene) : Move :=
  if run.isCancelled then
    .halt ⟨{ run with frames := [], wait := .ready }, .ended,
      .runStopped scene.id run.startedCount :: run.abandon scene.id⟩
  else
    match run.wait with
    | .ready => run.readyMove scene
    | .animating tween =>
        let wait := if tween.isDone scene.now then scene.pause else run.wait
        .halt ⟨{ run with wait }, .going, [.acted ((tween.sample scene.now).toAction scene.id)]⟩
    | .speaking bubble deadline =>
        if scene.now < deadline then
          .halt ⟨run, .going, []⟩
        else
          .halt ⟨{ run with wait := scene.pause }, .going, [.acted (bubble.clear scene.id)]⟩
    | .pacing deadline =>
        if scene.now < deadline then
          .halt ⟨run, .going, []⟩
        else
          .again { run with wait := .ready } []

/-- The loop of moves. There is no result if it is not over after a number of them. -/
def moves (scene : Scene) : Nat → Run → Option Driven
  | 0, _ => none
  | limit + 1, run =>
      match run.move scene with
      | .halt driven => some driven
      | .again next trace =>
          (moves scene limit next).map fun driven => { driven with trace := trace ++ driven.trace }

theorem moves_of_halt {driven : Driven} (halts : run.move scene = .halt driven) (limit : Nat) :
    moves scene (limit + 1) run = some driven := by
  rw [moves, halts]

theorem moves_of_again {next : Run} {trace : Trace} (goesOn : run.move scene = .again next trace)
    {limit : Nat} {driven : Driven} (later : moves scene limit next = some driven) :
    moves scene (limit + 1) run = some { driven with trace := trace ++ driven.trace } := by
  rw [moves, goesOn]
  simp only [later, Option.map_some]

theorem move_of_ready (free : run.isCancelled = false) (ready : run.wait = .ready) :
    run.move scene = run.readyMove scene := by
  simp [move, free, ready]

/-! ## The start of a block -/

@[simp] theorem Started.trace_driven (started : Started) (run : Run) :
    (started.driven run).trace = started.trace := by
  rw [driven]
  cases started.wait <;> rfl

theorem Started.driven_cons (started : Started) (run : Run) (id : SpriteId) (block : Block) :
    let counted := { run with startedCount := run.startedCount + 1 }
    Started.driven { started with trace := .blockStarted id block :: started.trace } run =
      { started.driven counted with
        trace := .blockStarted id block :: (started.driven counted).trace } := by
  have count : Trace.startedBlocks (.blockStarted id block :: started.trace) =
      block :: started.trace.startedBlocks := rfl
  cases waits : started.wait <;>
    simp only [driven, waits, count, List.length_cons, Nat.add_assoc, Nat.add_comm 1]

theorem moves_startMove_of_not_isEntered {block : Block} (single : block.isEntered = false)
    {frames : List Frame} (starts : run.move scene = run.startMove scene block frames)
    (limit : Nat) :
    let started := start scene frames block
    moves scene (started.trace.startedBlocks.length + limit) run = some (started.driven run) := by
  intro started
  have alone : started = _ := start_of_not_isEntered single frames
  have one : started.trace.startedBlocks.length = 1 := by
    rw [alone]
    exact congrArg (·.length + 1) (startAlone_opening scene block).startedBlocks
  rw [one, Nat.add_comm, alone]
  refine moves_of_halt ?_ limit
  rw [starts, startMove, single]
  rfl

theorem moves_start (scene : Scene) : ∀ (block : Block) (frame : Frame) (outer : List Frame)
    (run : Run) (limit : Nat), run.isCancelled = false → run.wait = .ready →
      run.frames = { frame with rest := block :: frame.rest } :: outer →
      let started := start scene (frame :: outer) block
      moves scene (started.trace.startedBlocks.length + limit) run = some (started.driven run)
  | block, frame, outer, run, limit, free, ready, top => by
      have starts : run.move scene = run.startMove scene block (frame :: outer) := by
        rw [move_of_ready free ready, readyMove, top]
      cases entered : block.isEntered with
      | false => exact moves_startMove_of_not_isEntered entered starts limit
      | true =>
          match block with
          | .container head (first :: rest) =>
              rw [startMove, if_pos entered] at starts
              have going : 0 < Block.rounds (.container head (first :: rest)) := by
                simpa [Block.isEntered] using entered
              let entering : Run :=
                { run with
                  frames := ⟨first :: rest, first :: rest,
                    Block.rounds (.container head (first :: rest))⟩ :: frame :: outer
                  startedCount := run.startedCount + 1 }
              have later := moves_start scene first
                ⟨first :: rest, rest, Block.rounds (.container head (first :: rest))⟩
                (frame :: outer) entering limit free ready rfl
              rw [start_of_rounds going]
              dsimp only
              rw [Started.driven_cons]
              have count (trace : Trace) : (Trace.startedBlocks (.blockStarted scene.id
                  (.container head (first :: rest)) :: trace)).length + limit =
                    trace.startedBlocks.length + limit + 1 := Nat.add_right_comm _ 1 limit
              rw [count]
              exact moves_of_again starts later

/-! ## Frames with a block -/

/-- Whether no frame goes through an empty list. Such a frame would take a move for each of its
passes. -/
def AreFilled (frames : List Frame) : Prop := ∀ frame ∈ frames, frame.body ≠ []

theorem AreFilled.next_block {frames rest : List Frame} {block : Block}
    (filled : AreFilled frames) (found : next frames = .block block rest) : AreFilled rest := by
  cases finding_of_next found with
  | inPass | nextPass =>
      rcases List.forall_mem_cons.mp filled with ⟨top, below⟩
      exact List.forall_mem_cons.mpr ⟨top, below⟩

theorem AreFilled.next_passesDone {frames rest : List Frame} (filled : AreFilled frames)
    (found : next frames = .passesDone rest) : AreFilled rest := by
  cases finding_of_next found with
  | passesDone => exact (List.forall_mem_cons.mp filled).2

theorem Starting.areFilled {frames : List Frame} {block : Block} {started : Started}
    (starting : Starting scene frames block started) (filled : AreFilled frames) :
    AreFilled started.frames := by
  induction starting with
  | alone => exact filled
  | entered frames head first rest inner going starting induction =>
      exact induction (List.forall_mem_cons.mpr ⟨List.cons_ne_nil _ _, filled⟩)

theorem Driving.areFilled {driven : Driven} (driving : Driving run scene driven)
    (filled : AreFilled run.frames) : AreFilled driven.run.frames := by
  cases driving with
  | started block frames started wait free waited found starting waits =>
      exact starting.areFilled (filled.next_block found)
  | passesDone frames free waited found => exact filled.next_passesDone found
  | sampled | cleared | waiting => exact filled
  | cancelled | failed | programDone => exact List.forall_mem_nil _

/-! ## The loop comes to its end -/

theorem proceed_of_block {block : Block} {frames : List Frame}
    (found : next run.frames = .block block frames) :
    run.proceed scene = (start scene frames block).driven run := by
  rw [proceed, found]
  rfl

theorem readyMove_of_isOver {frame : Frame} {outer : List Frame} (isOver : frame.IsOver)
    (filled : frame.body ≠ []) (top : run.frames = frame :: outer) :
    run.readyMove scene = .halt (run.proceed scene) := by
  have last : ¬1 < frame.passesLeft := Nat.not_lt.mpr (isOver.2.resolve_left filled)
  rw [readyMove, proceed, top, next_of_isOver isOver]
  simp only [isOver.1, if_neg last]
  cases outer.isEmpty <;> rfl

theorem moves_of_pass {block : Block} {rest : List Block} {passes limit : Nat}
    {outer : List Frame} (free : run.isCancelled = false) (ready : run.wait = .ready)
    (top : run.frames = ⟨block :: rest, [], passes + 2⟩ :: outer) :
    moves scene ((run.proceed scene).trace.startedBlocks.length + (limit + 1)) run =
      some (run.proceed scene) := by
  have found : next run.frames = .block block (⟨block :: rest, rest, passes + 1⟩ :: outer) := by
    rw [top]
    rfl
  have another : run.move scene = run.readyMove scene := move_of_ready free ready
  rw [readyMove, top] at another
  dsimp only at another
  rw [if_pos (show 1 < passes + 2 from Nat.le_add_left 2 passes)] at another
  have later := moves_start scene block ⟨block :: rest, rest, passes + 1⟩ outer
    { run with frames := ⟨block :: rest, block :: rest, passes + 1⟩ :: outer } limit free ready rfl
  rw [proceed_of_block found, Started.trace_driven]
  exact moves_of_again another later

theorem moves_of_ready (run : Run) (filled : AreFilled run.frames)
    (free : run.isCancelled = false) (ready : run.wait = .ready) (limit : Nat) :
    moves scene ((run.proceed scene).trace.startedBlocks.length + (limit + 1)) run =
      some (run.proceed scene) := by
  have looks : run.move scene = run.readyMove scene := move_of_ready free ready
  have finding := next_finding run.frames
  generalize top : run.frames = frames, found : next run.frames = next at finding
  rw [top] at filled
  cases finding with
  | noFrame =>
      have halts : run.readyMove scene = .halt (run.proceed scene) := by
        rw [readyMove, proceed, top]
        rfl
      exact moves_of_halt (looks.trans halts) _
  | inPass body block rest passesLeft outer =>
      rw [proceed_of_block found, Started.trace_driven]
      exact moves_start scene block ⟨body, rest, passesLeft⟩ outer run (limit + 1) free ready top
  | nextPass block rest passes outer => exact moves_of_pass free ready top
  | passesDone frame outer isOver inside =>
      have frameFilled := (List.forall_mem_cons.mp filled).1
      exact moves_of_halt (looks.trans (readyMove_of_isOver isOver frameFilled top)) _
  | programDone frame isOver =>
      have frameFilled := (List.forall_mem_cons.mp filled).1
      exact moves_of_halt (looks.trans (readyMove_of_isOver isOver frameFilled top)) _

/-- The loop of moves is a drive, and it is over after two moves more than there are blocks that
start. -/
theorem moves_eq_drive (filled : AreFilled run.frames) (scene : Scene) :
    let driven := run.drive scene
    moves scene (driven.trace.startedBlocks.length + 2) run = some driven := by
  intro driven
  have halts (only : run.move scene = .halt driven) :
      moves scene (driven.trace.startedBlocks.length + 2) run = some driven :=
    moves_of_halt only _
  by_cases marked : run.isCancelled = true
  · exact halts (by simp [driven, move, drive, marked])
  · have free : run.isCancelled = false := Bool.eq_false_iff.mpr marked
    cases waits : run.wait with
    | animating tween => exact halts (by simp [driven, move, drive, free, waits])
    | speaking bubble deadline =>
        by_cases early : scene.now < deadline
        · exact halts (by simp [driven, move, drive, free, waits, early])
        · exact halts (by simp [driven, move, drive, free, waits, early])
    | ready =>
        have proceeds : driven = run.proceed scene := by simp [driven, drive, free, waits]
        rw [proceeds]
        exact moves_of_ready run filled free waits 1
    | pacing deadline =>
        by_cases early : scene.now < deadline
        · exact halts (by simp [driven, move, drive, free, waits, early])
        · have proceeds : driven = run.proceed scene := by simp [driven, drive, free, waits, early]
          let next := { run with wait := .ready }
          have again : run.move scene = .again next [] := by simp [move, free, waits, early, next]
          have later : moves scene _ next = some (next.proceed scene) :=
            moves_of_ready next filled free rfl 0
          rw [proceeds]
          exact moves_of_again again later

/-! ## What a drive does -/

theorem Starting.areNested {frames : List Frame} {block : Block} {started : Started}
    (starting : Starting scene frames block started) :
    ∃ later, started.trace.startedBlocks = block :: later ∧ Block.AreNested (block :: later) ∧
      (block :: later).countP (fun block => !block.isEntered) = 1 := by
  induction starting with
  | alone frames block wait trace single opening =>
      refine ⟨[], congrArg (block :: ·) opening.startedBlocks, .singleton _, ?_⟩
      simp [single]
  | entered frames head first rest inner going starting induction =>
      rcases induction with ⟨later, told, nested, one⟩
      refine ⟨first :: later, congrArg (_ :: ·) told, .cons_cons rfl nested, ?_⟩
      rw [List.countP_cons, one, Block.isEntered_of_rounds going]
      rfl

theorem length_abandon_le (run : Run) (id : SpriteId) : (run.abandon id).length ≤ 1 := by
  rw [abandon]
  split
  · exact Nat.le_refl 1
  · exact Nat.zero_le 1

theorem Driving.startedBlocks_cases {driven : Driven} (driving : Driving run scene driven) :
    driven.trace.startedBlocks = [] ∨
      run.wait.isOver scene.now ∧ ∃ first later,
        driven.trace.startedBlocks = first :: later ∧ Block.AreNested (first :: later) ∧
          (first :: later).countP (fun block => !block.isEntered) = 1 := by
  cases driving with
  | started block frames started wait free waited found starting waits =>
      exact .inr ⟨waited, block, starting.areNested⟩
  | failed block frames started fault free waited found starting fails =>
      exact .inr ⟨waited, block, starting.areNested⟩
  | cancelled => exact .inl (run.startedBlocks_abandon scene.id)
  | passesDone | programDone | sampled | cleared | waiting => exact .inl rfl

theorem Driving.length_poses_le {driven : Driven} (driving : Driving run scene driven) :
    (driven.trace.filterMap Event.pose?).length ≤ 1 := by
  cases driving with
  | started block frames started wait free waited found starting waits =>
      rw [List.filterMap_eq_nil_iff.mpr starting.pose?_eq_none]
      exact Nat.zero_le 1
  | failed block frames started fault free waited found starting fails =>
      rw [List.filterMap_eq_nil_iff.mpr starting.pose?_eq_none]
      exact Nat.zero_le 1
  | cancelled =>
      have atMost := List.length_filterMap_le Event.pose? (run.abandon scene.id)
      exact Nat.le_trans atMost (run.length_abandon_le scene.id)
  | sampled | cleared => exact List.length_filterMap_le ..
  | passesDone | programDone | waiting => exact Nat.zero_le 1

structure IsBounded (trace : Trace) : Prop where
  single : trace.startedBlocks.countP (fun block => !block.isEntered) ≤ 1
  nested : Block.AreNested trace.startedBlocks
  shallow : ∀ first, trace.startedBlocks.head? = some first →
    trace.startedBlocks.length ≤ first.depth
  poses : (trace.filterMap Event.pose?).length ≤ 1

theorem Driving.isBounded {driven : Driven} (driving : Driving run scene driven) :
    IsBounded driven.trace := by
  rcases driving.startedBlocks_cases with none | ⟨_, first, later, told, nested, one⟩
  · refine ⟨?_, ?_, ?_, driving.length_poses_le⟩
    · rw [none]
      exact Nat.zero_le 1
    · rw [none]
      exact .nil
    · rw [none]
      nofun
  · refine ⟨?_, ?_, ?_, driving.length_poses_le⟩
    · rw [told]
      exact Nat.le_of_eq one
    · rw [told]
      exact nested
    · rw [told]
      rintro block same
      cases same
      exact Block.length_le_depth nested

def Wait.isBusy : Wait → Bool
  | .animating _ | .speaking _ _ => true
  | .ready | .pacing _ => false

theorem Driving.startedBlocks_of_isBusy {driven : Driven} (driving : Driving run scene driven)
    (busy : run.wait.isBusy = true) : driven.trace.startedBlocks = [] := by
  rcases driving.startedBlocks_cases with none | ⟨waited, _⟩
  · exact none
  · cases waits : run.wait with
    | animating | speaking =>
        rw [waits] at waited
        cases waited
    | ready | pacing =>
        rw [waits] at busy
        cases busy

/-! ## The runs that there are -/

inductive Reachable : Run → Prop
  | begun (program : List Block) (filled : program ≠ []) : Reachable (ofProgram program)
  | marked (run : Run) (reachable : Reachable run) : Reachable run.cancel
  | driven (run : Run) (scene : Scene) (reachable : Reachable run)
      (going : (run.drive scene).status = .going) : Reachable (run.drive scene).run

theorem Reachable.areFilled (reachable : run.Reachable) : AreFilled run.frames := by
  induction reachable with
  | begun program filled => exact List.forall_mem_singleton.mpr filled
  | marked run reachable induction => exact induction
  | driven run scene reachable going induction =>
      exact (run.drive_driving scene).areFilled induction

/-- At any time and with any settings, the loop that drives a run is over after two moves more
than there are blocks that start. It starts one block at most that is not a repeat block that is
entered, and each block after the first one is the first child of the one before; so they are no
more than the tree of the first one is deep. It gives one pose at most, and starts nothing in the
middle of a motion or of a bubble. -/
theorem drive_bounded (reachable : run.Reachable) (scene : Scene) :
    let driven := run.drive scene
    let started := driven.trace.startedBlocks
    moves scene (started.length + 2) run = some driven ∧ IsBounded driven.trace ∧
      (run.wait.isBusy = true → started = []) := by
  have driving := run.drive_driving scene
  exact ⟨moves_eq_drive reachable.areFilled scene, driving.isBounded,
    driving.startedBlocks_of_isBusy⟩

/-- Two repeat blocks and a bubble for no time, with pauses of no time: each of two drives comes
to the bubble. -/
theorem drive_bounded_instant :
    let say := Block.plain ⟨⟨1⟩, .say, [("seconds", ⟨.number, .number 0.0⟩)]⟩
    let repeated (id : BlockId) (child : Block) :=
      Block.container ⟨id, .repeatTimes, [("times", ⟨.number, .number 2e9⟩)]⟩ [child]
    let program := [repeated ⟨3⟩ (repeated ⟨2⟩ say)]
    let scene : Scene := ⟨{ Settings.standard with pacing := 0.0 }, ⟨1⟩, none, 0.0⟩
    let first := (ofProgram program).drive scene
    let second := first.run.drive scene
    (moves scene 5 (ofProgram program)).isSome = true ∧ IsBounded first.trace ∧
      (moves scene 3 first.run).isSome = true ∧ IsBounded second.trace := by
  intro say repeated program scene first second
  have begun : Reachable (ofProgram program) := .begun program (List.cons_ne_nil _ _)
  have going : first.status = .going := by decide +kernel
  have three : first.trace.startedBlocks.length = 3 := by decide +kernel
  have one : second.trace.startedBlocks.length = 1 := by decide +kernel
  rcases drive_bounded begun scene with ⟨ends, bounded, _⟩
  rcases drive_bounded (.driven _ scene begun going) scene with ⟨endsLater, boundedLater, _⟩
  have firstEnds : moves scene (3 + 2) (ofProgram program) = some first := three ▸ ends
  have secondEnds : moves scene (1 + 2) first.run = some second := one ▸ endsLater
  exact ⟨Option.isSome_of_mem firstEnds, bounded, Option.isSome_of_mem secondEnds, boundedLater⟩

end Run

end SpriteScript
