import SpriteScript.Proofs.Stage.Edit
import SpriteScript.Proofs.Stage.Spawn

namespace SpriteScript

/-! Sprites at finite places. They stay there unless they are moved somewhere else. -/

def Action.pose? : Action → Option (Pose Float32)
  | .setPosition _ position => some (.position position)
  | .setRotation _ rotation => some (.rotation rotation)
  | _ => none

def Action.MovesFinitely (action : Action) : Prop :=
  ∀ point, action.pose? = some (.position point) → point.isFinite = true

def Stage.Edit.MovesFinitely : Edit → Prop
  | .act action => action.MovesFinitely
  | .change _ made => ∀ sprite,
      (made sprite).position = sprite.position ∨ (made sprite).position.isFinite = true
  | .program _ | .addSprite | .select _ | .setPlaying _ => True

namespace Stage

def IsSteady (stage : Stage) : Prop := ∀ sprite ∈ stage.sprites, sprite.position.isFinite = true

variable {stage : Stage}

theorem IsSteady.of_sprite? (steady : stage.IsSteady) {id : SpriteId} {sprite : Sprite}
    (found : stage.sprite? id = some sprite) : sprite.position.isFinite = true :=
  steady sprite (List.mem_of_find?_eq_some found)

/-! ## Changes of one sprite -/

theorem IsSteady.changeSprite (steady : stage.IsSteady) (id : SpriteId)
    {change : Sprite → Sprite} (keeps : ∀ sprite,
      (change sprite).position = sprite.position ∨ (change sprite).position.isFinite = true) :
    (stage.changeSprite id change).IsSteady := by
  intro sprite member
  rcases mem_changeFirst member with kept | ⟨old, isOld, rfl⟩
  · exact steady sprite kept
  · rcases keeps old with same | finite
    · rw [same]
      exact steady old isOld
    · exact finite

/-! ## Actions -/

theorem IsSteady.changeProgram (steady : stage.IsSteady) (id : SpriteId) (program : List Block) :
    (stage.changeSprite id fun sprite => { sprite with program }).IsSteady :=
  steady.changeSprite id fun _ => .inl rfl

theorem IsSteady.swapPrograms (steady : stage.IsSteady) (left right : SpriteId) :
    (stage.swapPrograms left right).IsSteady := by
  rw [Stage.swapPrograms]
  split
  · exact steady
  · split
    · exact (steady.changeProgram left _).changeProgram right _
    · exact steady

theorem IsSteady.apply (steady : stage.IsSteady) {action : Action}
    (finitely : action.MovesFinitely) : (stage.apply action).IsSteady := by
  cases action with
  | setPosition id position =>
      exact steady.changeSprite id fun _ => .inr (finitely position rfl)
  | swapPrograms left right => exact steady.swapPrograms left right
  | lock | unlock => exact steady
  | _ => exact steady.changeSprite _ fun _ => .inl rfl

theorem IsSteady.replay (steady : stage.IsSteady) {trace : Trace}
    (finitely : ∀ action ∈ trace.actions, action.MovesFinitely) :
    (stage.replay trace).IsSteady := by
  rw [Stage.replay]
  generalize trace.actions = actions at finitely
  induction actions generalizing stage with
  | nil => exact steady
  | cons action rest induction =>
      rcases List.forall_mem_cons.mp finitely with ⟨first, later⟩
      exact induction (steady.apply first) later

/-! ## Edits -/

theorem IsSteady.addSprite (steady : stage.IsSteady) : stage.addSprite.1.IsSteady := by
  rw [Stage.addSprite]
  cases placed : stage.generator.place? stage.spawnExtent with
  | none => exact steady
  | some place =>
      intro sprite member
      rcases List.mem_append.mp member with old | new
      · exact steady sprite old
      · rw [List.mem_singleton.mp new]
        exact Generator.place?_isFinite placed

theorem IsSteady.edit (steady : stage.IsSteady) {edit : Edit} (finitely : edit.MovesFinitely) :
    (stage.edit edit).IsSteady := by
  cases edit with
  | program edit =>
      rcases stage.edit_program edit with same | ⟨program, changed⟩
      · rwa [same]
      · rw [changed]
        exact steady.changeProgram _ program
  | act action => exact steady.apply finitely
  | change id made => exact steady.changeSprite id finitely
  | addSprite => exact steady.addSprite
  | select id =>
      rcases stage.edit_select id with same | changed
      · rwa [same]
      · rw [changed]
        exact steady
  | setPlaying isPlaying => exact steady

end Stage

end SpriteScript
