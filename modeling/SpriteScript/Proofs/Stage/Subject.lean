import SpriteScript.Proofs.Stage.Lookup

namespace SpriteScript

/-! What a trace says about one sprite. A sprite that is looked up after a trace
without trades depends on its own part of the trace alone. -/

def Event.sprite? : Event → Option SpriteId
  | .acted action => action.sprite?
  | .spriteAdded sprite _ => some sprite
  | .runStarted sprite _ | .runStopped sprite _ | .runFailed sprite _ => some sprite
  | .runFinished sprite | .blockStarted sprite _ => some sprite
  | _ => none

/-- Whether an event is about a sprite, or tells of a block that was skipped. The
latter names no sprite. -/
def Event.isOwn (id : SpriteId) : Event → Bool
  | .blockSkipped _ _ => true
  | event => event.sprite? == some id

def Action.switch? : Action → Option Bool
  | .setRunning _ isRunning => some isRunning
  | _ => none

def Event.isStop (id : SpriteId) : Event → Bool
  | .runStopped sprite _ => sprite == id
  | _ => false

def Event.isFailure (id : SpriteId) : Event → Bool
  | .runFailed sprite _ => sprite == id
  | _ => false

namespace Trace

def hasStop (trace : Trace) (id : SpriteId) : Bool := trace.any (Event.isStop id)

def hasFailure (trace : Trace) (id : SpriteId) : Bool := trace.any (Event.isFailure id)

def about (trace : Trace) (id : SpriteId) : Trace :=
  trace.filter fun event => event.sprite? == some id

def switches (trace : Trace) : List Bool := trace.actions.filterMap Action.switch?

def IsNamed (trace : Trace) : Prop := ∀ action ∈ trace.actions, action.sprite? ≠ none

def IsOwn (trace : Trace) (id : SpriteId) : Prop := ∀ event ∈ trace, event.isOwn id

@[simp] theorem about_nil (id : SpriteId) : about [] id = [] := rfl

theorem about_append (left right : Trace) (id : SpriteId) :
    about (left ++ right) id = about left id ++ about right id :=
  List.filter_append left right

theorem hasStop_append (left right : Trace) (id : SpriteId) :
    hasStop (left ++ right) id = (hasStop left id || hasStop right id) :=
  List.any_append

theorem hasFailure_append (left right : Trace) (id : SpriteId) :
    hasFailure (left ++ right) id = (hasFailure left id || hasFailure right id) :=
  List.any_append

theorem hasStop_about (trace : Trace) (id : SpriteId) :
    hasStop (trace.about id) id = hasStop trace id := by
  rw [hasStop, about, List.any_filter, hasStop]
  apply congrArg trace.any
  funext event
  cases event with
  | runStopped sprite blocks => simp [Event.isStop, Event.sprite?]
  | _ => simp [Event.isStop]

theorem hasFailure_about (trace : Trace) (id : SpriteId) :
    hasFailure (trace.about id) id = hasFailure trace id := by
  rw [hasFailure, about, List.any_filter, hasFailure]
  apply congrArg trace.any
  funext event
  cases event with
  | runFailed sprite fault => simp [Event.isFailure, Event.sprite?]
  | _ => simp [Event.isFailure]

theorem switches_append (left right : Trace) :
    switches (left ++ right) = switches left ++ switches right := by
  rw [switches, actions_append, List.filterMap_append]
  rfl

theorem actions_about (trace : Trace) (id : SpriteId) :
    (trace.about id).actions = trace.actions.filter fun action => action.sprite? == some id := by
  rw [about, actions, actions, List.filterMap_filter, List.filter_filterMap]
  congr 1
  funext event
  cases event with
  | acted action => simp [Event.sprite?, Event.action?, Option.filter]
  | _ => simp [Event.action?]

/-! ## The trace of one sprite -/

theorem IsOwn.append {left right : Trace} {id : SpriteId} (leftOwn : IsOwn left id)
    (rightOwn : IsOwn right id) : IsOwn (left ++ right) id := by
  intro event member
  rcases List.mem_append.mp member with inLeft | inRight
  · exact leftOwn event inLeft
  · exact rightOwn event inRight

theorem IsOwn.sprite?_ne {trace : Trace} {id other : SpriteId} (own : IsOwn trace id)
    (different : other ≠ id) {event : Event} (member : event ∈ trace) :
    event.sprite? ≠ some other := by
  intro named
  have holds := own event member
  cases event <;> simp_all [Event.isOwn, Event.sprite?]

theorem IsOwn.about_of_ne {trace : Trace} {id other : SpriteId} (own : IsOwn trace id)
    (different : other ≠ id) : trace.about other = [] := by
  apply List.filter_eq_nil_iff.mpr
  intro event member
  simpa using own.sprite?_ne different member

theorem mem_actions {trace : Trace} {action : Action} :
    action ∈ trace.actions ↔ Event.acted action ∈ trace := by
  constructor
  · intro member
    rcases List.mem_filterMap.mp member with ⟨event, inTrace, acts⟩
    cases event <;> simp_all [Event.action?]
  · intro member
    exact List.mem_filterMap.mpr ⟨_, member, rfl⟩

theorem IsNamed.append {left right : Trace} (leftNamed : left.IsNamed)
    (rightNamed : right.IsNamed) : IsNamed (left ++ right) := by
  intro action member
  rw [actions_append, List.mem_append] at member
  rcases member with inLeft | inRight
  · exact leftNamed action inLeft
  · exact rightNamed action inRight

theorem IsNamed.noTrade {trace : Trace} (named : trace.IsNamed) :
    ∀ action ∈ trace.actions, action.isTrade = false := by
  intro action member
  have holds := named action member
  cases action <;> simp_all [Action.sprite?, Action.isTrade]

theorem IsOwn.isNamed {trace : Trace} {id : SpriteId} (own : IsOwn trace id) :
    trace.IsNamed := by
  intro action member none
  have holds := own _ (mem_actions.mp member)
  simp [Event.isOwn, Event.sprite?, none] at holds

theorem IsOwn.noTrade {trace : Trace} {id : SpriteId} (own : IsOwn trace id) :
    ∀ action ∈ trace.actions, action.isTrade = false :=
  own.isNamed.noTrade

theorem IsOwn.actions_about {trace : Trace} {id : SpriteId} (own : IsOwn trace id) :
    (trace.about id).actions = trace.actions := by
  rw [Trace.actions_about]
  apply List.filter_eq_self.mpr
  intro action member
  exact own _ (mem_actions.mp member)

theorem IsOwn.switches_about {trace : Trace} {id : SpriteId} (own : IsOwn trace id) :
    (trace.about id).switches = trace.switches :=
  congrArg (List.filterMap Action.switch?) own.actions_about

theorem IsOwn.startedBlocks_about {trace : Trace} {id : SpriteId} (own : IsOwn trace id) :
    (trace.about id).startedBlocks = trace.startedBlocks := by
  induction trace with
  | nil => rfl
  | cons event rest induction =>
      have parts := List.forall_mem_cons.mp own
      have later := induction parts.2
      cases event <;> simp_all [about, startedBlocks, Event.isOwn, Event.sprite?,
        Event.startedBlock?, List.filterMap_cons]

end Trace

theorem Sprite.isRunning_perform (sprite : Sprite) (trace : Trace) :
    (sprite.perform trace.actions).isRunning = trace.switches.getLastD sprite.isRunning := by
  rw [Trace.switches]
  induction trace.actions generalizing sprite with
  | nil => rfl
  | cons action rest induction =>
      rw [perform_cons, induction]
      cases action with
      | setRunning other isRunning => exact List.getLastD_cons.symm
      | _ => rfl

namespace Stage

/-! ## Looking up after a trace -/

@[simp] theorem replay_nil (stage : Stage) : stage.replay [] = stage := rfl

theorem replay_append (stage : Stage) (left right : Trace) :
    stage.replay (left ++ right) = (stage.replay left).replay right := by
  simp only [replay, Trace.actions_append, List.foldl_append]

private theorem sprite?_foldl_apply (actions : List Action)
    (noTrade : ∀ action ∈ actions, action.isTrade = false) (stage : Stage) (id : SpriteId) :
    (actions.foldl apply stage).sprite? id =
      (stage.sprite? id).map fun sprite =>
        sprite.perform (actions.filter fun action => action.sprite? == some id) := by
  induction actions generalizing stage with
  | nil => simp
  | cons action rest induction =>
      have parts := List.forall_mem_cons.mp noTrade
      rw [List.foldl_cons, induction parts.2, sprite?_apply stage parts.1]
      by_cases named : action.sprite? = some id
      · simp [named, Function.comp_def]
      · simp [named]

theorem sprite?_replay (stage : Stage) {trace : Trace}
    (noTrade : ∀ action ∈ trace.actions, action.isTrade = false) (id : SpriteId) :
    (stage.replay trace).sprite? id =
      (stage.sprite? id).map fun sprite => sprite.perform (trace.about id).actions := by
  rw [Trace.actions_about]
  exact sprite?_foldl_apply trace.actions noTrade stage id

theorem sprite?_replay_of_ne (stage : Stage) {trace : Trace} {id other : SpriteId}
    (own : trace.IsOwn id) (different : other ≠ id) :
    (stage.replay trace).sprite? other = stage.sprite? other := by
  rw [sprite?_replay stage own.noTrade, own.about_of_ne different]
  simp [Trace.actions]

theorem view_replay {α : Type} (view : Sprite → α)
    (blind : ∀ sprite program, view { sprite with program } = view sprite)
    (stage : Stage) {trace : Trace} {id : SpriteId}
    (unnamed : ∀ action ∈ trace.actions, action.sprite? ≠ some id) :
    ((stage.replay trace).sprite? id).map view = (stage.sprite? id).map view :=
  view_foldl_apply view blind trace.actions unnamed stage

end Stage

end SpriteScript
