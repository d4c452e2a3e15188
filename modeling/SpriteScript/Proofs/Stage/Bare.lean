import SpriteScript.Proofs.Stage.Edit

namespace SpriteScript

/-! Sprites without their programs. What an edit makes of the rest of a sprite does not
depend on its program, and an edit of programs makes nothing of it. -/

def Sprite.bare (sprite : Sprite) : Sprite := { sprite with program := [] }

theorem Sprite.bare_change (sprite : Sprite) (action : Action) :
    (action.change sprite).bare = action.change sprite.bare := by
  cases action <;> rfl

theorem Sprite.bare_perform (sprite : Sprite) (actions : List Action) :
    (sprite.perform actions).bare = sprite.bare.perform actions := by
  induction actions generalizing sprite with
  | nil => rfl
  | cons action rest induction => rw [perform_cons, induction, bare_change, perform_cons]

namespace Stage

def bare? (stage : Stage) (id : SpriteId) : Option Sprite := (stage.sprite? id).map Sprite.bare

def Edit.isOfPrograms : Edit → Bool
  | .program _ | .act (.swapPrograms _ _) | .select _ => true
  | _ => false

/-- Whether an edit gives no sprite another identifier, and changes all of its record but
the program as if there were no program. -/
def Edit.IsBlind : Edit → Prop
  | .change _ made =>
      ∀ sprite, (made sprite).id = sprite.id ∧ (made sprite).bare = (made sprite.bare).bare
  | _ => True

def Edit.onBare (id : SpriteId) (sprite : Sprite) : Edit → Sprite
  | .act action => if action.sprite? = some id then action.change sprite else sprite
  | .change target made => if id = target then (made sprite).bare else sprite
  | _ => sprite

theorem Edit.onBare_of_programs {edit : Edit} (isOf : edit.isOfPrograms = true) (id : SpriteId)
    (sprite : Sprite) : edit.onBare id sprite = sprite := by
  cases edit with
  | act action =>
      cases action with
      | swapPrograms left right => rfl
      | _ => cases isOf
  | change => cases isOf
  | _ => rfl

variable {stage : Stage} {id : SpriteId} {sprite : Sprite}

theorem sprite?_addSprite (found : stage.sprite? id = some sprite) :
    stage.addSprite.1.sprite? id = some sprite := by
  simp only [addSprite]
  split
  · exact found
  · rw [sprite?] at found ⊢
    rw [List.find?_append, found]
    rfl

theorem bare?_edit {edit : Edit} (blind : edit.IsBlind) (found : stage.bare? id = some sprite) :
    (stage.edit edit).bare? id = some (edit.onBare id sprite) := by
  rcases Option.map_eq_some_iff.mp found with ⟨whole, isWhole, isBare⟩
  cases edit with
  | program edit =>
      rcases stage.edit_program edit with same | ⟨program, changed⟩
      · rw [same]
        exact found
      · rw [changed]
        exact (view_changeProgram Sprite.bare (fun _ _ => rfl) stage _ id program).trans found
  | act action =>
      simp only [Stage.edit, Edit.onBare]
      by_cases named : action.sprite? = some id
      · have noTrade : action.isTrade = false := by
          cases action <;> first | rfl | cases named
        rw [bare?, sprite?_apply stage noTrade, if_pos named, if_pos named, isWhole, ← isBare,
          ← Sprite.bare_change]
        rfl
      · rw [if_neg named, ← found]
        exact view_apply Sprite.bare (fun _ _ => rfl) stage named
  | change target made =>
      simp only [Stage.edit, Edit.onBare]
      rw [bare?, sprite?_changeSprite stage target id made fun sprite => (blind sprite).1]
      by_cases same : id = target
      · rw [if_pos same, if_pos same, ← same, isWhole, ← isBare, ← (blind whole).2]
        rfl
      · rw [if_neg same, if_neg same]
        exact found
  | addSprite =>
      rw [bare?, Stage.edit, sprite?_addSprite isWhole]
      exact congrArg some isBare
  | select target =>
      rcases stage.edit_select target with same | changed
      · rw [same]
        exact found
      · rw [changed]
        exact found
  | setPlaying isPlaying => exact found

end Stage

end SpriteScript
