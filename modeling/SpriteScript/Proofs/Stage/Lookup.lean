import SpriteScript.Stage.Basic

namespace SpriteScript

/-! Looking up a sprite after actions. An action that names a sprite changes the
record of that sprite alone; a trade changes programs alone; a lock changes no
sprite. So a sprite that is looked up after a trace is the sprite from before,
after the actions of the trace that name it. -/

namespace Action

/-- The sprite that an action names; a trade or a lock names none by itself. -/
def sprite? : Action → Option SpriteId
  | .setRunning sprite _ | .setPosition sprite _ | .setRotation sprite _ => some sprite
  | .say sprite _ _ | .clearSay sprite | .think sprite _ _ | .clearThink sprite => some sprite
  | .swapPrograms _ _ | .lock _ | .unlock _ => none

def isTrade : Action → Bool
  | .swapPrograms _ _ => true
  | _ => false

def change (action : Action) (sprite : Sprite) : Sprite :=
  match action with
  | .setRunning _ isRunning => { sprite with isRunning }
  | .setPosition _ position => { sprite with position }
  | .setRotation _ rotation => { sprite with rotation }
  | .say _ text duration => { sprite with sayText := text, sayDuration := duration }
  | .clearSay _ => { sprite with sayText := "", sayDuration := 0.0 }
  | .think _ text duration => { sprite with thinkText := text, thinkDuration := duration }
  | .clearThink _ => { sprite with thinkText := "", thinkDuration := 0.0 }
  | .swapPrograms _ _ | .lock _ | .unlock _ => sprite

@[simp] theorem change_id (action : Action) (sprite : Sprite) :
    (action.change sprite).id = sprite.id := by
  cases action <;> rfl

end Action

namespace Sprite

def perform (sprite : Sprite) (actions : List Action) : Sprite :=
  actions.foldl (fun sprite action => action.change sprite) sprite

@[simp] theorem perform_nil (sprite : Sprite) : sprite.perform [] = sprite := rfl

@[simp] theorem perform_cons (sprite : Sprite) (action : Action) (rest : List Action) :
    sprite.perform (action :: rest) = (action.change sprite).perform rest := rfl

theorem perform_append (sprite : Sprite) (left right : List Action) :
    sprite.perform (left ++ right) = (sprite.perform left).perform right :=
  List.foldl_append

end Sprite

namespace Stage

/-! ## One action -/

theorem find?_changeFirst (id other : SpriteId) (change : Sprite → Sprite)
    (keepsId : ∀ sprite, (change sprite).id = sprite.id) (sprites : List Sprite) :
    (changeFirst id change sprites).find? (fun sprite => sprite.id == other) =
      if other = id then (sprites.find? fun sprite => sprite.id == id).map change
      else sprites.find? fun sprite => sprite.id == other := by
  induction sprites with
  | nil => simp [changeFirst]
  | cons sprite rest induction =>
      by_cases first : sprite.id = id
      · by_cases same : other = id
        · simp [changeFirst, first, keepsId, same]
        · have different : ¬id = other := fun equal => same equal.symm
          simp [changeFirst, first, keepsId, same, different]
      · by_cases named : sprite.id = other
        · have different : ¬other = id := fun equal => first (named.trans equal)
          simp [changeFirst, named, different]
        · simp [changeFirst, first, named, induction]

theorem mem_changeFirst {id : SpriteId} {change : Sprite → Sprite} {sprites : List Sprite}
    {sprite : Sprite} (member : sprite ∈ changeFirst id change sprites) :
    sprite ∈ sprites ∨ ∃ before ∈ sprites, change before = sprite := by
  induction sprites with
  | nil => cases member
  | cons first rest induction =>
      rw [changeFirst] at member
      split at member
      · rcases List.mem_cons.mp member with rfl | member
        · exact .inr ⟨first, List.mem_cons_self, rfl⟩
        · exact .inl (List.mem_cons_of_mem _ member)
      · rcases List.mem_cons.mp member with rfl | member
        · exact .inl List.mem_cons_self
        · rcases induction member with old | ⟨before, inside, same⟩
          · exact .inl (List.mem_cons_of_mem _ old)
          · exact .inr ⟨before, List.mem_cons_of_mem _ inside, same⟩

theorem sprite?_changeSprite (stage : Stage) (id other : SpriteId) (change : Sprite → Sprite)
    (keepsId : ∀ sprite, (change sprite).id = sprite.id) :
    (stage.changeSprite id change).sprite? other =
      if other = id then (stage.sprite? id).map change else stage.sprite? other :=
  find?_changeFirst id other change keepsId stage.sprites

theorem sprite?_of_mem {stage : Stage} (distinct : stage.spriteIds.Nodup) {sprite : Sprite}
    (member : sprite ∈ stage.sprites) : stage.sprite? sprite.id = some sprite := by
  rw [spriteIds] at distinct
  rw [sprite?]
  generalize stage.sprites = sprites at distinct member ⊢
  induction sprites with
  | nil => cases member
  | cons first rest induction =>
      rcases List.nodup_cons.mp distinct with ⟨absent, restDistinct⟩
      rcases List.mem_cons.mp member with same | later
      · rw [← same, List.find?_cons_of_pos (by simp)]
      · have different : first.id ≠ sprite.id := fun equal =>
          absent (equal ▸ List.mem_map_of_mem later)
        rw [List.find?_cons_of_neg (by simpa using different)]
        exact induction restDistinct later

theorem swapPrograms_eq (stage : Stage) (left right : SpriteId) :
    stage.swapPrograms left right =
      { stage with sprites := (stage.swapPrograms left right).sprites } := by
  rw [swapPrograms]
  split
  · rfl
  · split <;> rfl

theorem apply_eq (stage : Stage) (action : Action) :
    ∃ sprites locks, stage.apply action = { stage with sprites, locks } := by
  cases action with
  | swapPrograms left right => exact ⟨_, _, stage.swapPrograms_eq left right⟩
  | _ => exact ⟨_, _, rfl⟩

theorem apply_eq_changeSprite (stage : Stage) {action : Action} {id : SpriteId}
    (named : action.sprite? = some id) :
    stage.apply action = stage.changeSprite id action.change := by
  cases action <;> simp only [Action.sprite?, Option.some.injEq, reduceCtorEq] at named <;>
    rw [← named] <;> rfl

theorem sprite?_apply (stage : Stage) {action : Action} (noTrade : action.isTrade = false)
    (id : SpriteId) :
    (stage.apply action).sprite? id =
      if action.sprite? = some id then (stage.sprite? id).map action.change
      else stage.sprite? id := by
  cases named : action.sprite? with
  | none =>
      cases action <;> simp only [Action.sprite?, Action.isTrade, reduceCtorEq] at named noTrade
      · rfl
      · rfl
  | some other =>
      rw [stage.apply_eq_changeSprite named,
        stage.sprite?_changeSprite _ _ _ action.change_id]
      by_cases same : id = other
      · simp [same]
      · have different : ¬other = id := fun equal => same equal.symm
        simp [same, different]

/-! ## Views that programs do not matter to -/

section View

variable {α : Type} (view : Sprite → α)
  (blind : ∀ sprite program, view { sprite with program } = view sprite)

include blind

theorem view_changeProgram (stage : Stage) (target id : SpriteId) (program : List Block) :
    ((stage.changeSprite target fun sprite => { sprite with program }).sprite? id).map view =
      (stage.sprite? id).map view := by
  rw [sprite?_changeSprite stage target id (fun sprite => { sprite with program }) fun _ => rfl]
  by_cases same : id = target
  · simp [same, Function.comp_def, blind]
  · simp [same]

theorem view_swapPrograms (stage : Stage) (left right id : SpriteId) :
    ((stage.swapPrograms left right).sprite? id).map view = (stage.sprite? id).map view := by
  rw [swapPrograms]
  split
  · rfl
  · split
    · rw [view_changeProgram view blind, view_changeProgram view blind]
    · rfl

theorem view_apply (stage : Stage) {action : Action} {id : SpriteId}
    (unnamed : action.sprite? ≠ some id) :
    ((stage.apply action).sprite? id).map view = (stage.sprite? id).map view := by
  cases trade : action.isTrade with
  | false => rw [sprite?_apply stage trade, if_neg unnamed]
  | true =>
      cases action <;> simp only [Action.isTrade, Bool.false_eq_true] at trade
      exact view_swapPrograms view blind stage _ _ id

theorem view_foldl_apply {id : SpriteId} (actions : List Action)
    (unnamed : ∀ action ∈ actions, action.sprite? ≠ some id) (stage : Stage) :
    ((actions.foldl apply stage).sprite? id).map view = (stage.sprite? id).map view := by
  induction actions generalizing stage with
  | nil => rfl
  | cons action rest induction =>
      have parts := List.forall_mem_cons.mp unnamed
      rw [List.foldl_cons, induction parts.2, view_apply view blind stage parts.1]

end View

end Stage

end SpriteScript
