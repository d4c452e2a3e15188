import SpriteScript.Proofs.Stage.Subject

namespace SpriteScript

/-! Changes of different sprites do not depend on their order. What is done to one
sprite and what is done to another one lead to one and the same stage, whichever comes
first. -/

theorem Trace.IsOwn.sprite?_eq {trace : Trace} {id : SpriteId} (own : trace.IsOwn id) :
    ∀ action ∈ trace.actions, action.sprite? = some id := by
  intro action member
  exact beq_iff_eq.mp (own _ (mem_actions.mp member))

namespace Stage

theorem changeFirst_comm {left right : SpriteId} (different : left ≠ right)
    {leftChange rightChange : Sprite → Sprite}
    (leftKeeps : ∀ sprite, (leftChange sprite).id = sprite.id)
    (rightKeeps : ∀ sprite, (rightChange sprite).id = sprite.id) (sprites : List Sprite) :
    changeFirst left leftChange (changeFirst right rightChange sprites) =
      changeFirst right rightChange (changeFirst left leftChange sprites) := by
  induction sprites with
  | nil => rfl
  | cons sprite rest induction =>
      by_cases isLeft : sprite.id = left
      · have notRight : ¬sprite.id = right := fun equal => different (isLeft.symm.trans equal)
        simp [changeFirst, isLeft, leftKeeps, different]
      · by_cases isRight : sprite.id = right
        · have notLeft : ¬right = left := fun equal => different equal.symm
          simp [changeFirst, isRight, rightKeeps, notLeft]
        · simp [changeFirst, isLeft, isRight, induction]

theorem apply_comm (stage : Stage) {left right : SpriteId} (different : left ≠ right)
    {leftAction rightAction : Action} (leftNamed : leftAction.sprite? = some left)
    (rightNamed : rightAction.sprite? = some right) :
    (stage.apply leftAction).apply rightAction = (stage.apply rightAction).apply leftAction := by
  simp only [apply_eq_changeSprite _ leftNamed, apply_eq_changeSprite _ rightNamed, changeSprite]
  rw [changeFirst_comm different leftAction.change_id rightAction.change_id]

/-- Actions that name one sprite each commute with an action that names another one. -/
theorem foldl_apply_comm (stage : Stage) {left right : SpriteId} (different : left ≠ right)
    {action : Action} (named : action.sprite? = some left) {actions : List Action}
    (others : ∀ other ∈ actions, other.sprite? = some right) :
    actions.foldl apply (stage.apply action) = (actions.foldl apply stage).apply action := by
  induction actions generalizing stage with
  | nil => rfl
  | cons other rest induction =>
      rcases List.forall_mem_cons.mp others with ⟨first, later⟩
      rw [List.foldl_cons, apply_comm stage different named first, induction _ later,
        List.foldl_cons]

theorem replay_comm (stage : Stage) {left right : SpriteId} (different : left ≠ right)
    {leftTrace rightTrace : Trace} (leftOwn : leftTrace.IsOwn left)
    (rightOwn : rightTrace.IsOwn right) :
    (stage.replay leftTrace).replay rightTrace = (stage.replay rightTrace).replay leftTrace := by
  have ofLeft := leftOwn.sprite?_eq
  have ofRight := rightOwn.sprite?_eq
  simp only [replay]
  generalize leftTrace.actions = leftActions at ofLeft
  induction leftActions generalizing stage with
  | nil => rfl
  | cons action rest induction =>
      rcases List.forall_mem_cons.mp ofLeft with ⟨first, later⟩
      rw [List.foldl_cons, induction _ later, foldl_apply_comm stage different first ofRight,
        List.foldl_cons]

end Stage

end SpriteScript
