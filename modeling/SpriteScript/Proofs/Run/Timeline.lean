import SpriteScript.Proofs.Run.Own
import SpriteScript.Proofs.Run.Plan

namespace SpriteScript

/-! The course of a run over the calls that drive it: when each task of its plan is taken,
when what was begun is completed, and that nothing else is done in between. -/

def Trace.effects (trace : Trace) : List Action :=
  trace.actions.filter fun action => action.switch?.isNone

theorem Trace.effects_append (left right : Trace) :
    effects (left ++ right) = effects left ++ effects right := by
  simp [effects, actions_append]

namespace Run

/-! ## Beats -/

structure Beat where
  now : Float
  stance? : Option Stance
  started : List Block
  effects : List Action
  goesOn : Bool

structure Beat.Does (beat : Beat) (actions : List Action) : Prop where
  started : beat.started = []
  effects : beat.effects = actions
  goesOn : beat.goesOn = true

structure Beat.Ends (beat : Beat) : Prop where
  started : beat.started = []
  effects : beat.effects = []
  goesOn : beat.goesOn = false

/-! ## The course of a run -/

/-- How the last block begins that a call starts: what the call does to the sprite at once,
and what the run waits for then. A block that takes no time is followed by its pause. -/
inductive Begins (settings : Settings) (id : SpriteId) (beat : Beat) (block : Block) : Wait → Prop
  | idle (silent : block.speech? = none)
      (still : ∀ stance, beat.stance? = some stance → block.motion? stance = none)
      (effects : beat.effects = []) :
      Begins settings id beat block (.pacing (beat.now + settings.pacing))
  | moving (stance : Stance) (motion : Motion Float32) (duration : Float)
      (seen : beat.stance? = some stance) (asked : block.motion? stance = some motion)
      (reachable : motion.target.isFinite = true)
      (timed : settings.duration? block.kind = some duration) (effects : beat.effects = []) :
      Begins settings id beat block (.animating ⟨motion, beat.now, duration⟩)
  | speaking (bubble : Bubble) (seconds : Float)
      (asked : block.speech? = some (bubble, seconds)) (lasting : 0.0 < seconds * 1000.0)
      (effects : beat.effects = [bubble.fill id (block.text "text") (seconds * 1000.0)]) :
      Begins settings id beat block (.speaking bubble (beat.now + seconds * 1000.0))
  | spoken (bubble : Bubble) (seconds : Float)
      (asked : block.speech? = some (bubble, seconds)) (brief : ¬0.0 < seconds * 1000.0)
      (effects : beat.effects = [bubble.fill id (block.text "text") 0.0, bubble.clear id]) :
      Begins settings id beat block (.pacing (beat.now + settings.pacing))

/-- The course of the calls that drive a run, from what it waits for and from the tasks
that it has left. The calls may end at any point of it. -/
inductive Course (settings : Settings) (id : SpriteId) : Wait → List Task → List Beat → Prop
  | ready (tasks : List Task) : Course settings id .ready tasks []
  | ended (beat : Beat) (ends : beat.Ends) : Course settings id .ready [] [beat]
  /-- A repeat block ends, in a call of its own and with a pause of its own. -/
  | left (tasks : List Task) (beat : Beat) (beats : List Beat) (idle : beat.Does [])
      (paused : Course settings id (.pacing (beat.now + settings.pacing)) tasks beats) :
      Course settings id .ready (.leave :: tasks) (beat :: beats)
  | begun (outer : List Block) (last : Block) (tasks : List Task) (wait : Wait) (beat : Beat)
      (beats : List Beat) (entered : ∀ block ∈ outer, block.isEntered = true)
      (single : last.isEntered = false) (started : beat.started = outer ++ [last])
      (goesOn : beat.goesOn = true) (begins : Begins settings id beat last wait)
      (later : Course settings id wait tasks beats) :
      Course settings id .ready (outer.map .start ++ .start last :: tasks) (beat :: beats)
  /-- A pause: nothing is done before the first call that is not below its end, and that
  call goes on. -/
  | paused (deadline : Float) (tasks : List Task) (early later : List Beat)
      (idle : ∀ beat ∈ early, beat.now < deadline ∧ beat.Does [])
      (due : ∀ beat, later.head? = some beat → ¬beat.now < deadline)
      (onward : Course settings id .ready tasks later) :
      Course settings id (.pacing deadline) tasks (early ++ later)
  | moving (tween : Tween Float Float32) (tasks : List Task) (early : List Beat)
      (sampled : ∀ beat ∈ early, tween.isDone beat.now = false ∧
        beat.Does [(tween.sample beat.now).toAction id]) :
      Course settings id (.animating tween) tasks early
  /-- An animation is completed by the first call at which it is done; that call writes
  the target. -/
  | moved (tween : Tween Float Float32) (tasks : List Task) (early : List Beat) (beat : Beat)
      (later : List Beat)
      (sampled : ∀ beat ∈ early, tween.isDone beat.now = false ∧
        beat.Does [(tween.sample beat.now).toAction id])
      (done : tween.isDone beat.now = true)
      (landed : beat.Does [tween.motion.target.toAction id])
      (paused : Course settings id (.pacing (beat.now + settings.pacing)) tasks later) :
      Course settings id (.animating tween) tasks (early ++ beat :: later)
  | speaking (bubble : Bubble) (deadline : Float) (tasks : List Task) (early : List Beat)
      (idle : ∀ beat ∈ early, beat.now < deadline ∧ beat.Does []) :
      Course settings id (.speaking bubble deadline) tasks early
  | spoken (bubble : Bubble) (deadline : Float) (tasks : List Task) (early : List Beat)
      (beat : Beat) (later : List Beat)
      (idle : ∀ beat ∈ early, beat.now < deadline ∧ beat.Does [])
      (due : ¬beat.now < deadline) (cleared : beat.Does [bubble.clear id])
      (paused : Course settings id (.pacing (beat.now + settings.pacing)) tasks later) :
      Course settings id (.speaking bubble deadline) tasks (early ++ beat :: later)

namespace Course

variable {settings : Settings} {id : SpriteId} {tasks : List Task} {beat : Beat}
  {beats : List Beat}

/-! ## One more call in front -/

theorem nil (wait : Wait) (tasks : List Task) : Course settings id wait tasks [] := by
  cases wait with
  | ready => exact .ready tasks
  | animating tween => exact .moving tween tasks [] (List.forall_mem_nil _)
  | speaking bubble deadline => exact .speaking bubble deadline tasks [] (List.forall_mem_nil _)
  | pacing deadline =>
      refine .paused deadline tasks [] [] (List.forall_mem_nil _) ?_ (.ready tasks)
      intro beat first
      cases first

theorem of_isOver {wait : Wait} (waited : wait.isOver beat.now)
    (course : Course settings id .ready tasks (beat :: beats)) :
    Course settings id wait tasks (beat :: beats) := by
  cases wait with
  | ready => exact course
  | animating tween => cases waited
  | speaking bubble deadline => cases waited
  | pacing deadline =>
      refine .paused deadline tasks [] _ (List.forall_mem_nil _) ?_ course
      intro first isFirst
      cases isFirst
      simpa [Wait.isOver] using waited

theorem cons_paused {deadline : Float} (early : beat.now < deadline) (idle : beat.Does [])
    (course : Course settings id (.pacing deadline) tasks beats) :
    Course settings id (.pacing deadline) tasks (beat :: beats) := by
  cases course with
  | paused _ _ before later idles due onward =>
      exact .paused deadline tasks (beat :: before) later
        (List.forall_mem_cons.mpr ⟨⟨early, idle⟩, idles⟩) due onward

theorem cons_speaking {bubble : Bubble} {deadline : Float} (early : beat.now < deadline)
    (idle : beat.Does []) (course : Course settings id (.speaking bubble deadline) tasks beats) :
    Course settings id (.speaking bubble deadline) tasks (beat :: beats) := by
  cases course with
  | speaking _ _ _ _ idles =>
      exact .speaking bubble deadline tasks _ (List.forall_mem_cons.mpr ⟨⟨early, idle⟩, idles⟩)
  | spoken _ _ _ before last later idles due cleared paused =>
      exact .spoken bubble deadline tasks (beat :: before) last later
        (List.forall_mem_cons.mpr ⟨⟨early, idle⟩, idles⟩) due cleared paused

theorem cons_moving {tween : Tween Float Float32} (undone : tween.isDone beat.now = false)
    (sampled : beat.Does [(tween.sample beat.now).toAction id])
    (course : Course settings id (.animating tween) tasks beats) :
    Course settings id (.animating tween) tasks (beat :: beats) := by
  cases course with
  | moving _ _ _ samples =>
      exact .moving tween tasks _ (List.forall_mem_cons.mpr ⟨⟨undone, sampled⟩, samples⟩)
  | moved _ _ before last later samples done landed paused =>
      exact .moved tween tasks (beat :: before) last later
        (List.forall_mem_cons.mpr ⟨⟨undone, sampled⟩, samples⟩) done landed paused

end Course

end Run

/-! ## The start of blocks -/

theorem Bubble.duration_of_lasting {seconds : Float} (lasting : 0.0 < Bubble.duration seconds) :
    0.0 < seconds * 1000.0 ∧ Bubble.duration seconds = seconds * 1000.0 := by
  rw [Bubble.duration] at lasting ⊢
  split
  · next positive => exact ⟨positive, rfl⟩
  · next brief =>
      rw [if_neg brief] at lasting
      exact absurd lasting (by decide +kernel)

theorem Bubble.duration_of_brief {seconds : Float} (brief : ¬0.0 < Bubble.duration seconds) :
    ¬0.0 < seconds * 1000.0 ∧ Bubble.duration seconds = 0.0 := by
  rw [Bubble.duration] at brief ⊢
  split
  · next positive =>
      rw [if_pos positive] at brief
      exact absurd positive brief
  · next notPositive => exact ⟨notPositive, rfl⟩

theorem Trace.IsOfRun.effects_eq {trace : Trace} {id : SpriteId} (ofRun : trace.IsOfRun id) :
    trace.effects = trace.actions := by
  have unswitched := List.filterMap_eq_nil_iff.mp ofRun.switches_eq_nil
  exact List.filter_eq_self.mpr fun action member => by simp [unswitched action member]

namespace Run

variable {scene : Scene}

structure Beat.Tells (beat : Beat) (scene : Scene) (trace : Trace) : Prop where
  now : beat.now = scene.now
  seen : beat.stance? = scene.sprite?.map Sprite.stance
  started : beat.started = trace.startedBlocks
  effects : beat.effects = trace.actions

theorem Opening.begins {block : Block} {wait : Wait} {trace : Trace}
    (opening : Opening scene block (.ok wait, trace)) {beat : Beat} (now : beat.now = scene.now)
    (seen : beat.stance? = scene.sprite?.map Sprite.stance)
    (effects : beat.effects = trace.actions) :
    Begins scene.settings scene.id beat block wait := by
  cases opening with
  | idle _ told silent still =>
      have quiet : trace.actions = [] := Trace.actions_of_isSkip told
      rw [Scene.pause, ← now]
      refine .idle silent ?_ (effects.trans quiet)
      intro stance same
      rw [seen] at same
      rcases Option.map_eq_some_iff.mp same with ⟨sprite, found, rfl⟩
      exact still sprite found
  | moving sprite motion duration found asked reachable timed =>
      rw [← now]
      rw [found] at seen
      exact .moving sprite.stance motion duration seen asked reachable timed effects
  | speaking bubble seconds duration asked lasting measured =>
      rw [measured] at lasting effects ⊢
      rcases Bubble.duration_of_lasting lasting with ⟨positive, exact⟩
      rw [exact] at effects ⊢
      rw [← now]
      exact .speaking bubble seconds asked positive effects
  | spoken bubble seconds duration asked brief measured =>
      rw [measured] at brief effects
      rcases Bubble.duration_of_brief brief with ⟨notPositive, none⟩
      rw [none] at effects
      rw [Scene.pause, ← now]
      exact .spoken bubble seconds asked notPositive effects

theorem startedBlocks_map (id : SpriteId) (blocks : List Block) :
    Trace.startedBlocks (blocks.map (.blockStarted id)) = blocks := by
  simp [Trace.startedBlocks, List.filterMap_map, Function.comp_def, Event.startedBlock?]

theorem actions_map (id : SpriteId) (blocks : List Block) :
    Trace.actions (blocks.map (.blockStarted id)) = [] := by
  simp [Trace.actions, List.filterMap_map, Function.comp_def, Event.action?]

theorem Starting.course {frames rest : List Frame} {block : Block} {started : Started}
    (starting : Starting scene rest block started) (found : next frames = .block block rest)
    {wait : Wait} (waits : started.wait = .ok wait) {beat : Beat} {beats : List Beat}
    (tells : beat.Tells scene started.trace) (goesOn : beat.goesOn = true)
    (later : Course scene.settings scene.id wait (Run.planIn started.frames) beats) :
    Course scene.settings scene.id .ready (Run.planIn frames) (beat :: beats) := by
  rcases planIn_next_block found with ⟨front, inside⟩
  rcases starting.planIn inside with ⟨outer, last, trace, entered, single, opening, told, tasks⟩
  rw [waits] at opening
  have blocks : beat.started = outer ++ [last] := by
    rw [tells.started, told, Trace.startedBlocks_append, startedBlocks_map,
      opening.startedBlocks, List.append_nil]
  have effects : beat.effects = trace.actions := by
    rw [tells.effects, told, Trace.actions_append, actions_map, List.nil_append]
  rw [front, tasks]
  exact .begun outer last _ wait beat beats entered single blocks goesOn
    (opening.begins tells.now tells.seen effects) later

theorem Driving.course_of_going {run : Run} {driven : Driven} (driving : Driving run scene driven)
    (going : driven.status = .going) {beat : Beat} {beats : List Beat}
    (tells : beat.Tells scene driven.trace) (goesOn : beat.goesOn = true)
    (later : Course scene.settings scene.id driven.run.wait driven.run.plan beats) :
    Course scene.settings scene.id run.wait run.plan (beat :: beats) := by
  have does {actions : List Action} (started : driven.trace.startedBlocks = [])
      (acted : driven.trace.actions = actions) : beat.Does actions :=
    ⟨tells.started.trans started, tells.effects.trans acted, goesOn⟩
  cases driving with
  | cancelled => cases going
  | started block frames started wait free waited found starting waits =>
      rw [← tells.now] at waited
      exact .of_isOver waited (starting.course found waits tells goesOn later)
  | failed => cases going
  | passesDone frames free waited found =>
      rw [← tells.now] at waited
      rw [Scene.pause, ← tells.now] at later
      refine .of_isOver waited ?_
      rw [plan, planIn_next_passesDone found]
      exact .left _ beat beats (does rfl rfl) later
  | programDone => cases going
  | sampled tween free moving =>
      rw [← tells.now] at does later
      rw [moving] at later ⊢
      by_cases done : tween.isDone beat.now = true
      · simp only [done, if_true, Scene.pause, ← tells.now] at later
        refine .moved tween _ [] beat beats (List.forall_mem_nil _) done ?_ later
        have target : tween.sample beat.now = tween.motion.target := if_pos done
        rw [← target]
        exact does rfl rfl
      · simp only [done] at later
        exact .cons_moving (Bool.eq_false_iff.mpr done) (does rfl rfl) later
  | cleared bubble deadline free speaking late =>
      rw [← tells.now] at late
      rw [Scene.pause, ← tells.now] at later
      rw [speaking]
      exact .spoken bubble deadline _ [] beat beats (List.forall_mem_nil _) late (does rfl rfl)
        later
  | waiting free early =>
      have idle : beat.Does [] := does rfl rfl
      rcases early with ⟨bubble, deadline, speaking, early⟩ | ⟨deadline, pacing, early⟩
      · rw [← tells.now] at early
        rw [speaking] at later ⊢
        exact .cons_speaking early idle later
      · rw [← tells.now] at early
        rw [pacing] at later ⊢
        exact .cons_paused early idle later

theorem Driving.course_of_ended {run : Run} {driven : Driven} (driving : Driving run scene driven)
    (free : run.isCancelled = false) (ended : driven.status = .ended) :
    driven.trace = [] ∧ ∀ beat : Beat, beat.now = scene.now → beat.Ends →
      Course scene.settings scene.id run.wait run.plan [beat] := by
  cases driving with
  | cancelled marked =>
      rw [marked] at free
      cases free
  | programDone _ waited found =>
      refine ⟨rfl, fun beat now ends => ?_⟩
      rw [← now] at waited
      refine .of_isOver waited ?_
      rw [plan, planIn_next_programDone found]
      exact .ended beat ends
  | _ => cases ended

end Run

end SpriteScript
