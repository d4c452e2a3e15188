import SpriteScript.Proofs.Run.Timeline

namespace SpriteScript

/-! Runs whose sprite is missing. A block that starts without its sprite neither moves
anything nor fails; if it shows no bubble, it comes to a pause alone. So a run that shows no
bubble does no more than to take its tasks, with a pause after each. -/

/-! ## The start of a block -/

namespace Run

/-- What the start of a block comes to without its sprite: what the run waits for then, and
what is done. A bubble is shown all the same. -/
def unseen (scene : Scene) (block : Block) : Wait × List Action :=
  match block.speech? with
  | none => (scene.pause, [])
  | some (bubble, seconds) =>
      let duration := Bubble.duration seconds
      let fill := bubble.fill scene.id (block.text "text") duration
      if 0.0 < duration then
        (.speaking bubble (scene.now + duration), [fill])
      else
        (scene.pause, [fill, bubble.clear scene.id])

variable {scene : Scene}

theorem Opening.of_missing {block : Block} {wait : Except Fault Wait} {trace : Trace}
    (opening : Opening scene block (wait, trace)) (missing : scene.sprite? = none) :
    wait = .ok (unseen scene block).1 ∧ trace.actions = (unseen scene block).2 := by
  cases opening with
  | idle _ told silent =>
      rw [unseen, silent]
      exact ⟨rfl, Trace.actions_of_isSkip told⟩
  | moving sprite motion duration found =>
      rw [missing] at found
      cases found
  | unreachable sprite motion found =>
      rw [missing] at found
      cases found
  | speaking bubble seconds duration asked lasting measured =>
      rw [measured] at lasting ⊢
      simp [unseen, asked, lasting, Trace.actions, Event.action?]
  | spoken bubble seconds duration asked brief measured =>
      rw [measured] at brief ⊢
      simp [unseen, asked, brief, Trace.actions, Event.action?]

/-- Repeat blocks are entered without the sprite too, and the first block that is not
entered opens. -/
theorem Starting.of_missing {frames : List Frame} {block : Block} {started : Started}
    (starting : Starting scene frames block started) (inside : frames ≠ [])
    (missing : scene.sprite? = none) :
    ∃ outer last, (∀ block ∈ outer, Block.isEntered block = true) ∧ last.isEntered = false ∧
      started.trace.startedBlocks = outer ++ [last] ∧
      block.plan ++ Run.planIn frames =
        outer.map .start ++ .start last :: Run.planIn started.frames ∧
      started.wait = .ok (unseen scene last).1 ∧
      started.trace.actions = (unseen scene last).2 := by
  rcases starting.planIn inside with ⟨outer, last, trace, entered, single, opening, told, tasks⟩
  rcases opening.of_missing missing with ⟨waits, acts⟩
  refine ⟨outer, last, entered, single, ?_, tasks, waits, ?_⟩
  · rw [told, Trace.startedBlocks_append, startedBlocks_map, opening.startedBlocks,
      List.append_nil]
  · rw [told, Trace.actions_append, actions_map, List.nil_append, acts]

/-! ## Tasks that are taken together -/

namespace Task

def isPassing : Task → Bool
  | .start block => block.isEntered
  | .leave => false

/-- The tasks that are taken together: those that the next one follows at once, and the
next one. -/
def front : List Task → List Task
  | [] => []
  | task :: rest => if task.isPassing then task :: front rest else [task]

def behind : List Task → List Task
  | [] => []
  | task :: rest => if task.isPassing then behind rest else rest

theorem front_behind_of_entered {outer : List Block} {last : Block}
    (entered : ∀ block ∈ outer, block.isEntered = true) (single : last.isEntered = false)
    (rest : List Task) :
    front (outer.map .start ++ .start last :: rest) = (outer ++ [last]).map .start ∧
      behind (outer.map .start ++ .start last :: rest) = rest := by
  induction outer with
  | nil => simp [front, behind, isPassing, single]
  | cons block outer induction =>
      rcases List.forall_mem_cons.mp entered with ⟨first, later⟩
      rcases induction later with ⟨taken, left⟩
      simp [front, behind, isPassing, first, taken, left]

theorem filterMap_map_start (blocks : List Block) :
    (blocks.map .start).filterMap block? = blocks := by
  simp [List.filterMap_map, Function.comp_def, block?]

end Task

theorem Starting.takes_front {frames rest : List Frame} {block : Block} {started : Started}
    (starting : Starting scene rest block started) (found : next frames = .block block rest)
    (missing : scene.sprite? = none)
    (silent : ∀ block ∈ Run.remainingIn frames, block.speech? = none) :
    started.wait = .ok scene.pause ∧ started.trace.actions = [] ∧
      started.trace.startedBlocks = (Task.front (Run.planIn frames)).filterMap Task.block? ∧
      Run.planIn frames ≠ [] ∧ Task.behind (Run.planIn frames) = Run.planIn started.frames := by
  rcases planIn_next_block found with ⟨tasks, inside⟩
  rcases starting.of_missing inside missing with
    ⟨outer, last, entered, single, blocks, front, opens, acts⟩
  rcases Task.front_behind_of_entered entered single (Run.planIn started.frames) with
    ⟨taken, left⟩
  have member : last ∈ Run.remainingIn frames := by
    rw [remainingIn_next_block found, ← starting.remainingIn, blocks]
    simp
  rw [unseen, silent last member] at opens acts
  rw [tasks, front, taken, left, blocks, Task.filterMap_map_start]
  exact ⟨opens, acts, rfl, by simp, rfl⟩

/-! ## A run that paces -/

def Wait.isPause : Wait → Bool
  | .ready | .pacing _ => true
  | .animating _ | .speaking _ _ => false

def Wait.due? : Wait → Option Float
  | .pacing deadline => some deadline
  | .ready | .animating _ | .speaking _ _ => none

end Run

/-- A run that takes its tasks, with a pause after those that it takes together, and that
has nothing else to wait for. -/
structure Pacer where
  tasks : List Run.Task
  due? : Option Float
  isCancelled : Bool

namespace Pacer

def isDue (pacer : Pacer) (now : Float) : Bool :=
  pacer.due?.all fun due => !decide (now < due)

def wait (pacer : Pacer) : Run.Wait := pacer.due?.elim .ready .pacing

def taken (pacer : Pacer) (now : Float) : List Run.Task :=
  if !pacer.isCancelled && pacer.isDue now then Run.Task.front pacer.tasks else []

def drive (pacer : Pacer) (pause now : Float) : Option Pacer :=
  if pacer.isCancelled then
    none
  else if !pacer.isDue now then
    some pacer
  else if pacer.tasks.isEmpty then
    none
  else
    some { pacer with tasks := Run.Task.behind pacer.tasks, due? := some (now + pause) }

def cancel (pacer : Pacer) : Pacer := { pacer with isCancelled := true }

end Pacer

namespace Run

def pacer (run : Run) : Pacer := ⟨run.plan, run.wait.due?, run.isCancelled⟩

variable {run : Run} {scene : Scene}

theorem wait_pacer (pauses : run.wait.isPause) : run.pacer.wait = run.wait := by
  cases waits : run.wait with
  | ready | pacing => simp [pacer, Pacer.wait, waits, Wait.due?]
  | animating | speaking => simp [waits, Wait.isPause] at pauses

theorem abandon_of_isPause (pauses : run.wait.isPause) (id : SpriteId) : run.abandon id = [] := by
  rw [abandon]
  cases waits : run.wait with
  | speaking => simp [waits, Wait.isPause] at pauses
  | _ => rfl

theorem isDue_pacer (pauses : run.wait.isPause) (now : Float) :
    run.pacer.isDue now = run.wait.isOver now := by
  cases waits : run.wait with
  | ready | pacing => simp [pacer, Pacer.isDue, waits, Wait.due?, Wait.isOver]
  | animating | speaking => simp [waits, Wait.isPause] at pauses

theorem taken_pacer (pauses : run.wait.isPause) (free : run.isCancelled = false)
    (waited : run.wait.isOver scene.now) :
    run.pacer.taken scene.now = Task.front run.plan := by
  rw [Pacer.taken, isDue_pacer pauses, waited, if_pos (by simp [pacer, free])]
  rfl

theorem drive_pacer (pauses : run.wait.isPause) (free : run.isCancelled = false)
    (waited : run.wait.isOver scene.now) (pause : Float) :
    run.pacer.drive pause scene.now =
      if run.plan.isEmpty then none
      else some ⟨Task.behind run.plan, some (scene.now + pause), run.isCancelled⟩ := by
  have uncancelled : ¬run.pacer.isCancelled := by simp [pacer, free]
  have due : ¬(!run.pacer.isDue scene.now) := by simp [isDue_pacer pauses, waited]
  rw [Pacer.drive, if_neg uncancelled, if_neg due]
  rfl

structure Driven.Paces (driven : Driven) (run : Run) (scene : Scene) : Prop where
  actions : driven.trace.actions = []
  startedBlocks :
    driven.trace.startedBlocks = (run.pacer.taken scene.now).filterMap Task.block?
  next? : run.pacer.drive scene.settings.pacing scene.now =
    if driven.status = .going then some driven.run.pacer else none
  pauses : driven.status = .going → driven.run.wait.isPause
  unfailed : driven.status = .going ∨ driven.status = .ended

theorem drive_of_missing (missing : scene.sprite? = none) (pauses : run.wait.isPause)
    (silent : ∀ block ∈ run.remaining, block.speech? = none) :
    (run.drive scene).Paces run scene := by
  have driving := run.drive_driving scene
  generalize run.drive scene = driven at driving ⊢
  cases driving with
  | cancelled marked =>
      have stopped : run.pacer.isCancelled = true := marked
      rw [abandon_of_isPause pauses]
      refine ⟨rfl, ?_, ?_, by simp, .inr rfl⟩
      · rw [Pacer.taken, stopped]
        rfl
      · rw [Pacer.drive, if_pos stopped]
        rfl
  | started block frames started wait free waited found starting waits =>
      rcases starting.takes_front found missing silent with ⟨opens, acts, blocks, some, left⟩
      cases waits.symm.trans opens
      refine ⟨acts, ?_, ?_, fun _ => rfl, .inl rfl⟩
      · rw [taken_pacer pauses free waited]
        exact blocks
      · rw [drive_pacer pauses free waited, if_neg (by simpa [plan] using some), plan, left]
        rfl
  | failed block frames started fault free waited found starting fails =>
      have opens := (starting.takes_front found missing silent).1
      cases fails.symm.trans opens
  | passesDone frames free waited found =>
      have plans : run.plan = .leave :: planIn frames := planIn_next_passesDone found
      refine ⟨rfl, ?_, ?_, fun _ => rfl, .inl rfl⟩
      · rw [taken_pacer pauses free waited, plans]
        rfl
      · rw [drive_pacer pauses free waited, plans]
        rfl
  | programDone free waited found =>
      have plans : run.plan = [] := planIn_next_programDone found
      refine ⟨rfl, ?_, ?_, by simp, .inr rfl⟩
      · rw [taken_pacer pauses free waited, plans]
        rfl
      · rw [drive_pacer pauses free waited, plans]
        rfl
  | sampled tween free moving =>
      rw [moving] at pauses
      cases pauses
  | cleared bubble deadline free speaking =>
      rw [speaking] at pauses
      cases pauses
  | waiting free early =>
      have undue : run.pacer.isDue scene.now = false := by
        rw [isDue_pacer pauses]
        rcases early with ⟨bubble, deadline, speaking, early⟩ | ⟨deadline, pacing, early⟩
        · simp [speaking, Wait.isOver]
        · simp [pacing, Wait.isOver, early]
      have uncancelled : ¬run.pacer.isCancelled := by simp [pacer, free]
      refine ⟨rfl, ?_, ?_, fun _ => pauses, .inl rfl⟩
      · rw [Pacer.taken, undue, Bool.and_false]
        rfl
      · rw [Pacer.drive, if_neg uncancelled, if_pos (by rw [undue]; rfl)]
        rfl

end Run

end SpriteScript
