import SpriteScript.Proofs.Fault
import SpriteScript.Proofs.Stage.Subject

namespace SpriteScript.Stage

/-! Edits: what is done to a stage from outside. An edit that is at fault leaves
the stage as it was. -/

inductive ProgramEdit
  | addBlock (block : Block)
  | removeBlock (index : Nat)
  | moveBlock (source target : Nat)
  | setBlockInput (index : Nat) (name : String) (value : InputValue)
  | addChild (index : Nat) (child : Block)

inductive Edit
  | program (edit : ProgramEdit)
  | act (action : Action)
  | change (id : SpriteId) (change : Sprite → Sprite)
  | addSprite
  | select (id : SpriteId)
  | setPlaying (isPlaying : Bool)

def editProgram (stage : Stage) : ProgramEdit → Except Fault Stage
  | .addBlock block => stage.addBlock block
  | .removeBlock index => do return (← stage.removeBlock index).2
  | .moveBlock source target => stage.moveBlock source target
  | .setBlockInput index name value => do return (← stage.setBlockInput index name value).2
  | .addChild index child => stage.addChild index child

def edit (stage : Stage) : Edit → Stage
  | .program edit => (stage.editProgram edit).toOption.getD stage
  | .act action => stage.apply action
  | .change id change => stage.changeSprite id change
  | .addSprite => stage.addSprite.1
  | .select id => (stage.select id).toOption.getD stage
  | .setPlaying isPlaying => { stage with isPlaying }

/-! ## Programs -/

theorem editProgram_ok {stage next : Stage} {edit : ProgramEdit}
    (done : stage.editProgram edit = .ok next) :
    next = stage ∨ ∃ program, next = stage.withProgram program := by
  cases edit with
  | addBlock block =>
      rcases ok_of_bind done with ⟨program, _, done⟩
      cases done
      exact .inr ⟨_, rfl⟩
  | removeBlock index =>
      rcases ok_of_bind done with ⟨⟨removed, left⟩, taken, done⟩
      cases done
      rcases ok_of_bind taken with ⟨program, _, taken⟩
      rcases ok_of_bind taken with ⟨block, _, taken⟩
      cases taken
      exact .inr ⟨_, rfl⟩
  | moveBlock source target =>
      rcases ok_of_bind done with ⟨program, _, done⟩
      rcases ok_of_bind done with ⟨block, _, done⟩
      rcases ok_of_bind done with ⟨_, _, done⟩
      cases done
      exact .inr ⟨_, rfl⟩
  | setBlockInput index name value =>
      rcases ok_of_bind done with ⟨⟨isKnown, left⟩, given, done⟩
      cases done
      rcases ok_of_bind given with ⟨program, _, given⟩
      rcases ok_of_bind given with ⟨block, _, given⟩
      split at given
      · cases given
        exact .inr ⟨_, rfl⟩
      · cases given
        exact .inl rfl
  | addChild index child =>
      rcases ok_of_bind done with ⟨program, _, done⟩
      rcases ok_of_bind done with ⟨block, _, done⟩
      rcases ok_of_bind done with ⟨filled, _, done⟩
      cases done
      exact .inr ⟨_, rfl⟩

theorem edit_program (stage : Stage) (edit : ProgramEdit) :
    stage.edit (.program edit) = stage ∨
      ∃ program, stage.edit (.program edit) = stage.withProgram program := by
  simp only [Stage.edit]
  cases done : stage.editProgram edit with
  | error fault => exact .inl rfl
  | ok next => exact editProgram_ok done

theorem edit_select (stage : Stage) (id : SpriteId) :
    stage.edit (.select id) = stage ∨ stage.edit (.select id) = { stage with active := id } := by
  simp only [edit, select]
  split
  · exact .inr rfl
  · exact .inl rfl

/-! ## The playing flag -/

theorem apply_isPlaying (stage : Stage) (action : Action) :
    (stage.apply action).isPlaying = stage.isPlaying := by
  rcases stage.apply_eq action with ⟨sprites, locks, same⟩
  rw [same]

theorem replay_isPlaying (stage : Stage) (trace : Trace) :
    (stage.replay trace).isPlaying = stage.isPlaying := by
  simp only [replay]
  induction trace.actions generalizing stage with
  | nil => rfl
  | cons action rest induction =>
      rw [List.foldl_cons, induction, apply_isPlaying]

theorem addSprite_isPlaying (stage : Stage) : stage.addSprite.1.isPlaying = stage.isPlaying := by
  simp only [addSprite]
  split <;> rfl

theorem edit_isPlaying (stage : Stage) {edit : Edit}
    (other : ∀ isPlaying, edit ≠ .setPlaying isPlaying) :
    (stage.edit edit).isPlaying = stage.isPlaying := by
  cases edit with
  | program edit =>
      rcases stage.edit_program edit with same | ⟨program, changed⟩
      · rw [same]
      · rw [changed]
        rfl
  | act action => exact stage.apply_isPlaying action
  | change id change => rfl
  | addSprite => exact stage.addSprite_isPlaying
  | select id =>
      rcases stage.edit_select id with same | changed
      · rw [same]
      · rw [changed]
  | setPlaying isPlaying => exact absurd rfl (other isPlaying)

/-! ## Running flags -/

def isMarked (stage : Stage) (id : SpriteId) : Bool := (stage.sprite? id).any Sprite.isRunning

def Edit.KeepsMarks : Edit → Prop
  | .act (.setRunning _ _) => False
  | .change _ made =>
      ∀ sprite, (made sprite).id = sprite.id ∧ (made sprite).isRunning = sprite.isRunning
  | _ => True

theorem isMarked_eq {stage next : Stage} {id : SpriteId}
    (same : (next.sprite? id).map Sprite.isRunning = (stage.sprite? id).map Sprite.isRunning) :
    next.isMarked id = stage.isMarked id := by
  have marked := congrArg (Option.any fun isRunning => isRunning) same
  rw [Option.any_map, Option.any_map] at marked
  exact marked

theorem isMarked_apply (stage : Stage) {action : Action}
    (other : ∀ sprite isRunning, action ≠ .setRunning sprite isRunning) (id : SpriteId) :
    (stage.apply action).isMarked id = stage.isMarked id := by
  apply isMarked_eq
  cases trade : action.isTrade with
  | true =>
      refine view_apply Sprite.isRunning (fun _ _ => rfl) stage ?_
      cases action <;> simp [Action.isTrade, Action.sprite?] at trade ⊢
  | false =>
      have kept (sprite : Sprite) : (action.change sprite).isRunning = sprite.isRunning := by
        cases action with
        | setRunning sprite isRunning => exact absurd rfl (other sprite isRunning)
        | _ => rfl
      rw [sprite?_apply stage trade]
      split
      · rw [Option.map_map]
        congr 1
        funext sprite
        exact kept sprite
      · rfl

theorem isMarked_addSprite (stage : Stage) (id : SpriteId) :
    stage.addSprite.1.isMarked id = stage.isMarked id := by
  simp only [addSprite]
  split
  · rfl
  · simp only [isMarked, sprite?, List.find?_append, List.find?_cons, List.find?_nil]
    cases stage.sprites.find? fun sprite => sprite.id == id with
    | some sprite => rfl
    | none => split <;> rfl

theorem isMarked_edit (stage : Stage) {edit : Edit} (keeps : edit.KeepsMarks) (id : SpriteId) :
    (stage.edit edit).isMarked id = stage.isMarked id := by
  cases edit with
  | program edit =>
      rcases stage.edit_program edit with same | ⟨program, changed⟩
      · rw [same]
      · rw [changed]
        exact isMarked_eq (view_changeProgram Sprite.isRunning (fun _ _ => rfl) stage _ id program)
  | act action =>
      apply isMarked_apply
      intro sprite isRunning same
      rw [same] at keeps
      exact keeps
  | change target change =>
      apply isMarked_eq
      simp only [Stage.edit]
      rw [sprite?_changeSprite stage target id change fun sprite => (keeps sprite).1]
      split
      · next same =>
          rw [same, Option.map_map]
          congr 1
          funext sprite
          exact (keeps sprite).2
      · rfl
  | addSprite => exact stage.isMarked_addSprite id
  | select id =>
      rcases stage.edit_select id with same | changed
      · rw [same]
      · rw [changed]
        rfl
  | setPlaying isPlaying => rfl

theorem isMarked_replay (stage : Stage) {trace : Trace} {id : SpriteId}
    (unnamed : ∀ action ∈ trace.actions, action.sprite? ≠ some id) :
    (stage.replay trace).isMarked id = stage.isMarked id :=
  isMarked_eq (view_replay Sprite.isRunning (fun _ _ => rfl) stage unnamed)

end SpriteScript.Stage
