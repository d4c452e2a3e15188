import SpriteScript.Proofs.Engine.Leg

namespace SpriteScript

/-! Speech. Each block that speaks fills a bubble, and that bubble is cleared before
the run does anything else. The events of a run that is driven are those of a small
grammar, whose state is the bubble that is shown. -/

/-! ## Bubbles in a trace -/

namespace Action

def filled? : Action → Option Bubble
  | .say _ _ _ => some .speech
  | .think _ _ _ => some .thought
  | _ => none

def cleared? : Action → Option Bubble
  | .clearSay _ => some .speech
  | .clearThink _ => some .thought
  | _ => none

def isOfBubble (action : Action) : Bool := action.filled?.isSome || action.cleared?.isSome

end Action

theorem Bubble.sprite?_fill (bubble : Bubble) (id : SpriteId) (text : String) (duration : Float) :
    (Event.acted (bubble.fill id text duration)).sprite? = some id := by
  cases bubble <;> rfl

theorem Bubble.sprite?_clear (bubble : Bubble) (id : SpriteId) :
    (Event.acted (bubble.clear id)).sprite? = some id := by
  cases bubble <;> rfl

theorem Pose.sprite?_toAction (pose : Pose Float32) (id : SpriteId) :
    (Event.acted (pose.toAction id)).sprite? = some id := by
  cases pose <;> rfl

def Event.isDeed : Event → Bool
  | .blockStarted _ _ => true
  | .acted (.setPosition _ _) | .acted (.setRotation _ _) => true
  | _ => false

def Event.isAside : Event → Bool
  | .acted action => !(Event.acted action).isDeed && !action.isOfBubble
  | event => !event.isDeed

theorem Event.isDeed_of_isAside {event : Event} (isAside : event.isAside) :
    event.isDeed = false := by
  cases event with
  | acted action => cases action <;> simp_all [Event.isAside]
  | _ => simp_all [Event.isAside]

def Block.remark (block : Block) (id : SpriteId) : List Action :=
  match block.speech? with
  | some (bubble, seconds) =>
      [bubble.fill id (block.text "text") (Bubble.duration seconds), bubble.clear id]
  | none => []

/-- What is still to be done to a bubble that is shown. -/
def Bubble.owed (id : SpriteId) (shown? : Option Bubble) : List Action :=
  (shown?.map fun bubble => bubble.clear id).toList

namespace Trace

def bubbleActions (trace : Trace) : List Action := trace.actions.filter Action.isOfBubble

/-- What a run does for its sprite, from the bubble that is shown at first to the one
that is shown at last. -/
inductive Speaks (id : SpriteId) : Option Bubble → Trace → Option Bubble → Prop
  | done (shown? : Option Bubble) : Speaks id shown? [] shown?
  | remark (block : Block) (bubble : Bubble) (seconds : Float) (rest : Trace)
      (last? : Option Bubble) (asked : block.speech? = some (bubble, seconds))
      (later : Speaks id (some bubble) rest last?) :
      Speaks id none (.blockStarted id block ::
        .acted (bubble.fill id (block.text "text") (Bubble.duration seconds)) :: rest) last?
  | block (block : Block) (rest : Trace) (last? : Option Bubble) (silent : block.speech? = none)
      (later : Speaks id none rest last?) : Speaks id none (.blockStarted id block :: rest) last?
  | move (pose : Pose Float32) (rest : Trace) (last? : Option Bubble)
      (later : Speaks id none rest last?) :
      Speaks id none (.acted (pose.toAction id) :: rest) last?
  | clear (bubble : Bubble) (rest : Trace) (last? : Option Bubble)
      (later : Speaks id none rest last?) :
      Speaks id (some bubble) (.acted (bubble.clear id) :: rest) last?
  | aside (shown? : Option Bubble) (event : Event) (rest : Trace) (last? : Option Bubble)
      (isAside : event.isAside) (later : Speaks id shown? rest last?) :
      Speaks id shown? (event :: rest) last?

theorem about_cons_of_named {event : Event} {id : SpriteId} (named : event.sprite? = some id)
    (rest : Trace) : Trace.about (event :: rest) id = event :: rest.about id :=
  List.filter_cons_of_pos (by simp [named])

variable {id : SpriteId} {first? middle? last? : Option Bubble} {trace : Trace}

theorem Speaks.append {left right : Trace} (leftSpeaks : Speaks id first? left middle?)
    (rightSpeaks : Speaks id middle? right last?) : Speaks id first? (left ++ right) last? := by
  induction leftSpeaks with
  | done shown? => exact rightSpeaks
  | remark block bubble seconds rest _ asked _ induction =>
      exact .remark block bubble seconds _ _ asked (induction rightSpeaks)
  | block block rest _ silent _ induction => exact .block block _ _ silent (induction rightSpeaks)
  | move pose rest _ _ induction => exact .move pose _ _ (induction rightSpeaks)
  | clear bubble rest _ _ induction => exact .clear bubble _ _ (induction rightSpeaks)
  | aside shown? event rest _ isAside _ induction =>
      exact .aside shown? event _ _ isAside (induction rightSpeaks)

theorem Speaks.of_asides (shown? : Option Bubble) (asides : ∀ event ∈ trace, event.isAside) :
    Speaks id shown? trace shown? := by
  induction trace with
  | nil => exact .done shown?
  | cons event rest induction =>
      rcases List.forall_mem_cons.mp asides with ⟨first, later⟩
      exact .aside shown? event rest shown? first (induction later)

theorem Speaks.about (speaks : Speaks id first? trace last?) :
    Speaks id first? (trace.about id) last? := by
  induction speaks with
  | done shown? => exact .done shown?
  | remark block bubble seconds rest last? asked _ induction =>
      rw [about_cons_of_named rfl, about_cons_of_named (bubble.sprite?_fill ..)]
      exact .remark block bubble seconds _ _ asked induction
  | block block rest last? silent _ induction =>
      rw [about_cons_of_named rfl]
      exact .block block _ _ silent induction
  | move pose rest last? _ induction =>
      rw [about_cons_of_named (pose.sprite?_toAction id)]
      exact .move pose _ _ induction
  | clear bubble rest last? _ induction =>
      rw [about_cons_of_named (bubble.sprite?_clear id)]
      exact .clear bubble _ _ induction
  | aside shown? event rest last? isAside _ induction =>
      by_cases named : event.sprite? = some id
      · rw [about_cons_of_named named]
        exact .aside shown? event _ _ isAside induction
      · rw [Trace.about, List.filter_cons_of_neg (by simp [named])]
        exact induction

/-! ## What the grammar says -/

/-- The changes of bubbles are the remarks of the blocks that start, apart from what
was owed at first and what is owed at last. -/
theorem Speaks.bubbleActions (speaks : Speaks id first? trace last?) :
    trace.bubbleActions ++ Bubble.owed id last? =
      Bubble.owed id first? ++ trace.startedBlocks.flatMap fun block => block.remark id := by
  induction speaks with
  | done shown? => simp [Trace.bubbleActions, Trace.actions, Trace.startedBlocks]
  | remark block bubble seconds rest last? asked _ induction =>
      have remark : block.remark id =
          [bubble.fill id (block.text "text") (Bubble.duration seconds), bubble.clear id] := by
        simp [Block.remark, asked]
      have filled : Trace.bubbleActions (.blockStarted id block ::
          .acted (bubble.fill id (block.text "text") (Bubble.duration seconds)) :: rest) =
          bubble.fill id (block.text "text") (Bubble.duration seconds) ::
            rest.bubbleActions := by
        cases bubble <;> rfl
      have started : Trace.startedBlocks (.blockStarted id block ::
          .acted (bubble.fill id (block.text "text") (Bubble.duration seconds)) :: rest) =
          block :: rest.startedBlocks := rfl
      rw [filled, started, List.cons_append, induction, List.flatMap_cons, remark]
      rfl
  | block block rest last? silent _ induction =>
      have remark : block.remark id = [] := by simp [Block.remark, silent]
      have started : Trace.startedBlocks (.blockStarted id block :: rest) =
          block :: rest.startedBlocks := rfl
      rw [started, List.flatMap_cons, remark]
      exact induction
  | move pose rest last? _ induction =>
      have kept : Trace.bubbleActions (.acted (pose.toAction id) :: rest) =
          rest.bubbleActions := by
        cases pose <;> rfl
      rw [kept]
      exact induction
  | clear bubble rest last? _ induction =>
      have cleared : Trace.bubbleActions (.acted (bubble.clear id) :: rest) =
          bubble.clear id :: rest.bubbleActions := by
        cases bubble <;> rfl
      rw [cleared, List.cons_append, induction]
      rfl
  | aside shown? event rest last? isAside _ induction =>
      have actions : Trace.bubbleActions (event :: rest) = rest.bubbleActions := by
        cases event with
        | acted action => cases action <;> first | rfl | cases isAside
        | _ => rfl
      have started : Trace.startedBlocks (event :: rest) = rest.startedBlocks := by
        cases event with
        | blockStarted => cases isAside
        | _ => rfl
      rw [actions, started]
      exact induction

theorem Speaks.quiet_until_clear {bubble : Bubble} {between after : Trace}
    (speaks : Speaks id (some bubble) (between ++ after) last?)
    (kept : .acted (bubble.clear id) ∉ between) : ∀ event ∈ between, event.isDeed = false := by
  induction between with
  | nil => exact List.forall_mem_nil _
  | cons event rest induction =>
      rw [List.mem_cons, not_or] at kept
      cases speaks with
      | clear => exact absurd rfl kept.1
      | aside _ _ _ _ isAside later =>
          exact List.forall_mem_cons.mpr
            ⟨Event.isDeed_of_isAside isAside, induction later kept.2⟩

theorem split_of_ne {first event : Event} {rest before after : Trace} (different : first ≠ event)
    (split : first :: rest = before ++ event :: after) :
    ∃ before, rest = before ++ event :: after := by
  cases before with
  | nil => exact absurd (List.head_eq_of_cons_eq split) different
  | cons other before => exact ⟨before, List.tail_eq_of_cons_eq split⟩

theorem Speaks.quiet_of_fill (speaks : Speaks id first? trace last?) {before between after : Trace}
    {bubble : Bubble} {text : String} {duration : Float}
    (split : trace = before ++ .acted (bubble.fill id text duration) :: (between ++ after))
    (kept : .acted (bubble.clear id) ∉ between) : ∀ event ∈ between, event.isDeed = false := by
  induction speaks generalizing before with
  | done shown? => simp at split
  | remark block other seconds rest last? asked later induction =>
      rcases split_of_ne (by simp) split with ⟨before, split⟩
      cases before with
      | nil =>
          -- This is the remark that the bubble belongs to.
          have filled := List.head_eq_of_cons_eq split
          have same : other = bubble := by
            cases other <;> cases bubble <;> simp_all [Bubble.fill]
          rw [List.tail_eq_of_cons_eq split, same] at later
          exact later.quiet_until_clear kept
      | cons event before => exact induction (List.tail_eq_of_cons_eq split)
  | block block rest last? silent later induction =>
      rcases split_of_ne (by simp) split with ⟨before, split⟩
      exact induction split
  | move pose rest last? later induction =>
      have different : Event.acted (pose.toAction id) ≠ .acted (bubble.fill id text duration) := by
        cases pose <;> cases bubble <;> simp [Pose.toAction, Bubble.fill]
      rcases split_of_ne different split with ⟨before, split⟩
      exact induction split
  | clear other rest last? later induction =>
      have different : Event.acted (other.clear id) ≠ .acted (bubble.fill id text duration) := by
        cases other <;> cases bubble <;> simp [Bubble.clear, Bubble.fill]
      rcases split_of_ne different split with ⟨before, split⟩
      exact induction split
  | aside shown? event rest last? isAside later induction =>
      have different : event ≠ .acted (bubble.fill id text duration) := by
        intro same
        rw [same] at isAside
        cases bubble <;> cases isAside
      rcases split_of_ne different split with ⟨before, split⟩
      exact induction split

end Trace

/-! ## A run -/

namespace Run

def Wait.bubble? : Wait → Option Bubble
  | .speaking bubble _ => some bubble
  | .ready | .animating _ | .pacing _ => none

def shown? (run? : Option Run) : Option Bubble := run?.bind fun run => run.wait.bubble?

theorem bubble?_of_isOver {wait : Wait} {now : Float} (isOver : wait.isOver now) :
    wait.bubble? = none := by
  cases wait with
  | speaking => cases isOver
  | _ => rfl

theorem Opening.speaks {scene : Scene} {block : Block} {wait : Except Fault Wait}
    {trace : Trace} (opening : Opening scene block (wait, trace)) :
    Trace.Speaks scene.id none (.blockStarted scene.id block :: trace)
      (wait.toOption.bind Wait.bubble?) := by
  cases opening with
  | idle _ told silent =>
      refine .block block trace _ silent (.of_asides none ?_)
      intro event member
      have skip := told event member
      cases event <;> simp_all [Event.isSkip, Event.isAside, Event.isDeed]
  | moving sprite motion duration found asked =>
      exact .block block [] _ (Block.speech?_of_motion? asked) (.done _)
  | unreachable sprite motion found asked =>
      exact .block block [] _ (Block.speech?_of_motion? asked) (.done _)
  | speaking bubble seconds duration asked lasting measured =>
      rw [measured]
      exact .remark block bubble seconds [] _ asked (.done _)
  | spoken bubble seconds duration asked brief measured =>
      rw [measured]
      exact .remark block bubble seconds _ _ asked (.clear bubble [] _ (.done _))

theorem Starting.speaks {scene : Scene} {frames : List Frame} {block : Block}
    {started : Started} (starting : Starting scene frames block started) :
    started.trace.Speaks scene.id none (started.wait.toOption.bind Wait.bubble?) := by
  induction starting with
  | alone frames block wait trace single opening => exact opening.speaks
  | entered frames head first rest inner going starting induction =>
      have silent : Block.speech? (.container head (first :: rest)) = none := by
        simp [Block.speech?, Block.kind_of_rounds going]
      exact .block _ _ _ silent induction

theorem abandon_speaks (run : Run) (id : SpriteId) :
    (run.abandon id).Speaks id run.wait.bubble? none := by
  rw [abandon]
  cases run.wait with
  | speaking bubble deadline => exact .clear bubble [] _ (.done _)
  | _ => exact .done _

theorem Driving.speaks {run : Run} {scene : Scene} {driven : Driven}
    (driving : Driving run scene driven) :
    driven.trace.Speaks scene.id run.wait.bubble? driven.run.wait.bubble? := by
  cases driving with
  | cancelled => exact .aside _ _ _ _ rfl (run.abandon_speaks scene.id)
  | started block frames started wait free waited found starting waits =>
      have speaks := starting.speaks
      rw [waits] at speaks
      rw [bubble?_of_isOver waited]
      exact speaks
  | failed block frames started fault free waited found starting fails =>
      have speaks := starting.speaks
      rw [fails] at speaks
      rw [bubble?_of_isOver waited]
      exact speaks
  | passesDone frames free waited =>
      rw [bubble?_of_isOver waited]
      exact .done _
  | programDone free waited =>
      rw [bubble?_of_isOver waited]
      exact .done _
  | sampled tween free moving =>
      have shows : (if tween.isDone scene.now then scene.pause else run.wait).bubble? = none := by
        split
        · rfl
        · rw [moving]
          rfl
      rw [moving] at shows ⊢
      rw [shows]
      exact .move _ [] _ (.done _)
  | cleared bubble deadline free speaking =>
      rw [speaking]
      exact .clear bubble [] _ (.done _)
  | waiting => exact .done _

theorem Driving.bubble?_of_over {run : Run} {scene : Scene} {driven : Driven}
    (driving : Driving run scene driven) (ends : driven.status ≠ .going) :
    driven.run.wait.bubble? = none := by
  cases driving with
  | cancelled => rfl
  | failed => rfl
  | programDone => rfl
  | _ => exact absurd rfl ends

theorem leg_speaks (run : Run) (scene : Scene) :
    (run.leg scene).trace.Speaks scene.id run.wait.bubble? (shown? (run.leg scene).run?) := by
  have driving := run.drive_driving scene
  by_cases going : (run.drive scene).status = .going
  · rw [leg_of_going going]
    exact driving.speaks
  · have isOver : (run.drive scene).run.wait.bubble? = none := driving.bubble?_of_over going
    have speaks := driving.speaks
    rw [isOver] at speaks
    rw [leg_of_not_going going]
    refine (speaks.append (.of_asides none ?_)).append (.of_asides none ?_)
    · cases (run.drive scene).status <;> simp [Engine.failure, Event.isAside, Event.isDeed]
    · simp [Engine.finish, Event.isAside, Event.isDeed, Action.isOfBubble, Action.filled?,
        Action.cleared?]

end Run

end SpriteScript
