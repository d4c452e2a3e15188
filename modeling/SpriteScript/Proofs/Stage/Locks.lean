import SpriteScript.Proofs.Stage.Edit

namespace SpriteScript

/-! The locks of a stage, and who is on it. Locks change by two actions alone, and
nothing takes a sprite off the stage. -/

def Action.isOfLock : Action → Bool
  | .lock _ | .unlock _ => true
  | _ => false

theorem Trace.IsNamed.noLock {trace : Trace} (named : trace.IsNamed) :
    ∀ action ∈ trace.actions, action.isOfLock = false := by
  intro action member
  have holds := named action member
  cases action <;> simp_all [Action.sprite?, Action.isOfLock]

namespace Stage

/-! ## Locks -/

theorem mem_insertLock {key other : LockKey} {locks : List LockKey} :
    other ∈ insertLock key locks ↔ other = key ∨ other ∈ locks := by
  induction locks with
  | nil => simp [insertLock]
  | cons first rest induction =>
      rw [insertLock]
      split
      · next same => simp [same]
      · split
        · rw [List.mem_cons]
        · rw [List.mem_cons, induction, List.mem_cons]
          exact or_left_comm

theorem swapPrograms_locks (stage : Stage) (left right : SpriteId) :
    (stage.swapPrograms left right).locks = stage.locks := by
  rw [swapPrograms_eq]

theorem apply_locks (stage : Stage) {action : Action} (other : action.isOfLock = false) :
    (stage.apply action).locks = stage.locks := by
  cases action with
  | lock key => cases other
  | unlock key => cases other
  | swapPrograms left right => exact stage.swapPrograms_locks left right
  | _ => rfl

theorem replay_locks (stage : Stage) {trace : Trace}
    (others : ∀ action ∈ trace.actions, action.isOfLock = false) :
    (stage.replay trace).locks = stage.locks := by
  rw [replay]
  generalize trace.actions = actions at others
  induction actions generalizing stage with
  | nil => rfl
  | cons action rest induction =>
      rcases List.forall_mem_cons.mp others with ⟨first, later⟩
      rw [List.foldl_cons, induction _ later, apply_locks stage first]

/-- Nothing but releases: whatever is not released is still locked. -/
theorem mem_locks_replay {stage : Stage} {trace : Trace} {key : LockKey}
    (releases : ∀ action ∈ trace.actions, ∃ other, action = .unlock other) :
    key ∈ (stage.replay trace).locks ↔ key ∈ stage.locks ∧ .acted (.unlock key) ∉ trace := by
  rw [← Trace.mem_actions, replay]
  generalize trace.actions = actions at releases
  induction actions generalizing stage with
  | nil => simp
  | cons action rest induction =>
      rcases List.forall_mem_cons.mp releases with ⟨⟨other, same⟩, later⟩
      have kept : key ∈ (stage.apply (.unlock other)).locks ↔ key ∈ stage.locks ∧ key ≠ other := by
        simp [apply]
      rw [List.foldl_cons, same, List.mem_cons, not_or, ← and_assoc]
      refine (induction later).trans (and_congr_left' (kept.trans (and_congr_right' ?_)))
      rw [Ne, Action.unlock.injEq]

/-! ## Who is on the stage -/

theorem mem_spriteIds_iff {stage : Stage} {id : SpriteId} :
    id ∈ stage.spriteIds ↔ (stage.sprite? id).isSome = true := by
  rw [sprite?, List.find?_isSome, spriteIds, List.mem_map]
  simp only [beq_iff_eq]

theorem map_changeFirst {α : Type} (view : Sprite → α) (id : SpriteId) {change : Sprite → Sprite}
    (keeps : ∀ sprite, sprite.id = id → view (change sprite) = view sprite)
    (sprites : List Sprite) : (changeFirst id change sprites).map view = sprites.map view := by
  induction sprites with
  | nil => rfl
  | cons sprite rest induction =>
      rw [changeFirst]
      split
      · next named => rw [List.map_cons, keeps sprite named, List.map_cons]
      · rw [List.map_cons, induction, List.map_cons]

theorem spriteIds_changeSprite (stage : Stage) (id : SpriteId) {change : Sprite → Sprite}
    (keepsId : ∀ sprite, sprite.id = id → (change sprite).id = sprite.id) :
    (stage.changeSprite id change).spriteIds = stage.spriteIds :=
  map_changeFirst Sprite.id id keepsId stage.sprites

theorem spriteIds_changeProgram (stage : Stage) (id : SpriteId) (program : List Block) :
    (stage.changeSprite id fun sprite => { sprite with program }).spriteIds =
      stage.spriteIds := by
  apply spriteIds_changeSprite
  intro sprite _
  rfl

theorem spriteIds_swapPrograms (stage : Stage) (left right : SpriteId) :
    (stage.swapPrograms left right).spriteIds = stage.spriteIds := by
  rw [swapPrograms]
  split
  · rfl
  · split
    · rw [spriteIds_changeProgram, spriteIds_changeProgram]
    · rfl

theorem spriteIds_apply (stage : Stage) (action : Action) :
    (stage.apply action).spriteIds = stage.spriteIds := by
  cases action with
  | swapPrograms left right => exact stage.spriteIds_swapPrograms left right
  | lock key => rfl
  | unlock key => rfl
  | _ =>
      apply spriteIds_changeSprite
      intro sprite _
      rfl

theorem spriteIds_replay (stage : Stage) (trace : Trace) :
    (stage.replay trace).spriteIds = stage.spriteIds := by
  rw [replay]
  induction trace.actions generalizing stage with
  | nil => rfl
  | cons action rest induction => rw [List.foldl_cons, induction, spriteIds_apply]

theorem mem_spriteIds_addSprite {stage : Stage} {id : SpriteId} (member : id ∈ stage.spriteIds) :
    id ∈ stage.addSprite.1.spriteIds := by
  simp only [addSprite]
  split
  · exact member
  · simp only [spriteIds, List.map_append]
    exact List.mem_append_left _ member

/-! ## Edits -/

def Edit.KeepsLocks : Edit → Prop
  | .act action => action.isOfLock = false
  | .change _ made => ∀ sprite, (made sprite).id = sprite.id
  | _ => True

theorem addSprite_locks (stage : Stage) : stage.addSprite.1.locks = stage.locks := by
  simp only [addSprite]
  split <;> rfl

def Edit.SparesLocks : Edit → Prop
  | .act action => action.isOfLock = false
  | _ => True

theorem Edit.KeepsLocks.spares {edit : Edit} (keeps : edit.KeepsLocks) : edit.SparesLocks := by
  cases edit with
  | act action => exact keeps
  | _ => trivial

theorem edit_locks (stage : Stage) {edit : Edit} (spares : edit.SparesLocks) :
    (stage.edit edit).locks = stage.locks := by
  cases edit with
  | program edit =>
      rcases stage.edit_program edit with same | ⟨program, changed⟩
      · rw [same]
      · rw [changed]
        rfl
  | act action => exact stage.apply_locks spares
  | change id change => rfl
  | addSprite => exact stage.addSprite_locks
  | select id =>
      rcases stage.edit_select id with same | changed
      · rw [same]
      · rw [changed]
  | setPlaying isPlaying => rfl

theorem mem_spriteIds_edit {stage : Stage} {edit : Edit} (keeps : edit.KeepsLocks) {id : SpriteId}
    (member : id ∈ stage.spriteIds) : id ∈ (stage.edit edit).spriteIds := by
  cases edit with
  | program edit =>
      rcases stage.edit_program edit with same | ⟨program, changed⟩
      · rw [same]
        exact member
      · rw [changed, withProgram, spriteIds_changeProgram]
        exact member
  | act action =>
      rw [Stage.edit, spriteIds_apply]
      exact member
  | change target change =>
      rw [Stage.edit, spriteIds_changeSprite stage target fun sprite _ => keeps sprite]
      exact member
  | addSprite => exact mem_spriteIds_addSprite member
  | select target =>
      rcases stage.edit_select target with same | changed
      · rw [same]
        exact member
      · rw [changed]
        exact member
  | setPlaying isPlaying => exact member

end Stage

end SpriteScript
