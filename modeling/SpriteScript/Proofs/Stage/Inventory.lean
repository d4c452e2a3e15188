import Mathlib.Data.List.Forall2
import Mathlib.Data.List.Perm.Basic
import SpriteScript.Proofs.Stage.InPlace

namespace SpriteScript

/-! What is in a program, at all depths. No edit loses a block or makes one up: what is there
afterwards, together with a block that is given back, is what was there before, together with
a block that is brought in. -/

namespace Block

/-! ## All heads of a program -/

def headsOf (blocks : List Block) : List Head := (nodesOf blocks).map head

theorem length_headsOf (blocks : List Block) : (headsOf blocks).length = sizes blocks := by
  rw [headsOf, List.length_map, length_nodesOf]

/-- The first block comes before its children, and these before the other blocks. -/
theorem headsOf_cons (block : Block) (rest : List Block) :
    headsOf (block :: rest) = block.head :: headsOf (block.children?.getD [] ++ rest) := by
  cases block with
  | plain head => rfl
  | container head children =>
      simp only [headsOf, nodesOf_eq, children?, Option.getD_some, List.flatMap_cons,
        List.flatMap_append, nodes, List.cons_append, List.map_cons]

theorem headsOf_perm {blocks others : List Block} (same : blocks.Perm others) :
    (headsOf blocks).Perm (headsOf others) := by
  rw [headsOf, headsOf, nodesOf_eq, nodesOf_eq]
  exact (same.flatMap_right nodes).map head

theorem headsOf_insertIdx {others : List Block} {index : Nat} (inside : index ≤ others.length)
    (block : Block) : (headsOf (others.insertIdx index block)).Perm (headsOf (block :: others)) :=
  headsOf_perm (List.perm_insertIdx block others inside)

theorem headsOf_pushed (head : Head) (children : List Block) (child : Block)
    (others : List Block) :
    headsOf (.container head (children ++ [child]) :: others) =
      headsOf (.container head children :: child :: others) := by
  rw [headsOf_cons, headsOf_cons]
  simp only [children?, Option.getD_some, List.append_assoc, List.singleton_append]
  rfl

theorem headsOf_withHead (block : Block) (head : Head) (others : List Block) :
    headsOf (block.withHead head :: others) =
      head :: headsOf (block.children?.getD [] ++ others) := by
  rw [headsOf_cons]
  cases block <;> rfl

/-! ## Heads that differ in one input -/

structure Head.DiffersIn (head : Head) (name : String) (value : InputValue) (changed : Head) :
    Prop where
  id : changed.id = head.id
  kind : changed.kind = head.kind
  inputs : List.Forall₂ (fun old new : String × Input => new.1 = old.1 ∧
    new.2.valueType = old.2.valueType ∧
    new.2.value = if old.1 = name then value else old.2.value) head.inputs changed.inputs

theorem Head.differsIn_setValue (head : Head) (name : String) (value : InputValue) :
    head.DiffersIn name value { head with inputs := head.inputs.setValue name value } := by
  refine ⟨rfl, rfl, ?_⟩
  rw [Inputs.setValue, List.forall₂_map_right_iff, List.forall₂_same]
  intro entry _
  by_cases same : entry.1 = name
  · simp [same]
  · simp [same]

theorem Head.differsIn_self {head : Head} {name : String} (unknown : name ∉ head.inputs.names)
    (value : InputValue) : head.DiffersIn name value head := by
  refine ⟨rfl, rfl, List.forall₂_same.mpr ?_⟩
  intro entry member
  have other : entry.1 ≠ name := fun same => unknown (same ▸ List.mem_map_of_mem member)
  exact ⟨rfl, rfl, (if_neg other).symm⟩

end Block

namespace Stage

open Block (headsOf headsOf_cons headsOf_perm headsOf_insertIdx headsOf_pushed headsOf_withHead)
open ProgramEdit (Answer)

/-! ## What an edit does to a program -/

def ProgramEdit.Conserves (edit : ProgramEdit) (answer : Answer) (before after : List Block) :
    Prop :=
  match edit with
  | .setBlockInput index name value =>
      ∃ block changed others, before[index]? = some block ∧
        answer = .known (block.inputs.has name) ∧
        (headsOf before).Perm (block.head :: others) ∧ (headsOf after).Perm (changed :: others) ∧
        block.head.DiffersIn name value changed
  | _ => (headsOf (answer.block?.toList ++ after)).Perm (headsOf (edit.block?.toList ++ before))

/-- A block stands at another index, and all others stay in order. -/
structure Moved (source target : Nat) (before after : List Block) : Prop where
  lands : ∃ block, before[source]? = some block ∧ after[target]? = some block
  others : after.eraseIdx target = before.eraseIdx source

theorem perm_of_present {program : List Block} {index : Nat} {block : Block}
    (present : program[index]? = some block) :
    program.Perm (block :: program.eraseIdx index) := by
  rcases List.getElem?_eq_some_iff.mp present with ⟨inside, rfl⟩
  exact (List.getElem_cons_eraseIdx_perm inside).symm

namespace ProgramEdit.Effect

variable {edit : ProgramEdit} {answer : Answer} {before after : List Block}

theorem inside (effect : edit.Effect answer before after) :
    ∀ index ∈ edit.indices, index < before.length := by
  cases effect with
  | added _ _ => exact List.forall_mem_nil _
  | moved fromInside toInside =>
      rw [List.length_insertIdx_of_le_length fromInside]
      exact List.forall_mem_cons.mpr ⟨Nat.lt_succ_of_le fromInside,
        List.forall_mem_singleton.mpr (Nat.lt_succ_of_le toInside)⟩
  | unknown present unset =>
      exact List.forall_mem_singleton.mpr (List.getElem?_eq_some_iff.mp present).1
  | removed inside | changed inside _ | pushed inside =>
      rw [List.length_insertIdx_of_le_length inside]
      exact List.forall_mem_singleton.mpr (Nat.lt_succ_of_le inside)

theorem conserves (effect : edit.Effect answer before after) :
    edit.Conserves answer before after := by
  cases effect with
  | added _ block => exact headsOf_perm (List.perm_append_singleton block before)
  | removed inside => exact (headsOf_insertIdx inside _).symm
  | moved fromInside toInside =>
      exact (headsOf_insertIdx toInside _).trans (headsOf_insertIdx fromInside _).symm
  | @changed others index name value block next inside set =>
      simp only [Block.setInput?, Option.ite_none_right_eq_some, Option.some.injEq] at set
      rcases set with ⟨known, rfl⟩
      refine ⟨block, _, headsOf (block.children?.getD [] ++ others), ?_, ?_, ?_, ?_,
        block.head.differsIn_setValue name value⟩
      · rw [List.getElem?_insertIdx_self, if_pos inside]
      · rw [known]
      · rw [← headsOf_cons]
        exact headsOf_insertIdx inside block
      · rw [← headsOf_withHead]
        exact headsOf_insertIdx inside _
  | @unknown _ index name value block present unset =>
      have unknown : block.inputs.has name = false := by simpa [Block.setInput?] using unset
      have same : (headsOf before).Perm
          (block.head :: headsOf (block.children?.getD [] ++ before.eraseIdx index)) := by
        rw [← headsOf_cons]
        exact headsOf_perm (perm_of_present present)
      refine ⟨block, block.head, _, present, ?_, same, same, ?_⟩
      · rw [unknown]
      · refine Block.Head.differsIn_self (fun member => ?_) value
        exact absurd (Inputs.has_iff.mpr member) (ne_true_of_eq_false unknown)
  | @pushed others index head children child inside =>
      calc (headsOf (others.insertIdx index (.container head (children ++ [child])))).Perm
            (headsOf (.container head (children ++ [child]) :: others)) :=
          headsOf_insertIdx inside _
        _ = headsOf (.container head children :: child :: others) :=
          headsOf_pushed head children child others
        List.Perm _ (headsOf (child :: .container head children :: others)) :=
          headsOf_perm (.swap child (.container head children) others)
        List.Perm _ (headsOf (child :: others.insertIdx index (.container head children))) :=
          headsOf_perm (.cons child (List.perm_insertIdx _ others inside).symm)

theorem moves {source target : Nat}
    (effect : (ProgramEdit.moveBlock source target).Effect answer before after) :
    Moved source target before after := by
  cases effect with
  | @moved others _ _ block fromInside toInside =>
      refine ⟨⟨block, ?_, ?_⟩, ?_⟩
      · rw [List.getElem?_insertIdx_self, if_pos fromInside]
      · rw [List.getElem?_insertIdx_self, if_pos toInside]
      · rw [List.eraseIdx_insertIdx_self, List.eraseIdx_insertIdx_self]

end ProgramEdit.Effect

theorem sizes_given (given : Option Block) (blocks : List Block) :
    Block.sizes (given.toList ++ blocks) = given.elim 0 Block.size + Block.sizes blocks := by
  cases given with
  | none => exact (Nat.zero_add _).symm
  | some block => rfl

theorem ProgramEdit.Conserves.sizes {edit : ProgramEdit} {answer : Answer}
    {before after : List Block} (conserves : edit.Conserves answer before after) :
    answer.block?.elim 0 Block.size + Block.sizes after =
      edit.block?.elim 0 Block.size + Block.sizes before := by
  cases edit with
  | setBlockInput index name value =>
      rcases conserves with ⟨block, changed, others, _, rfl, old, new, _⟩
      have counts := new.length_eq.trans old.length_eq.symm
      rw [Block.length_headsOf, Block.length_headsOf] at counts
      exact congrArg (0 + ·) counts
  | _ =>
      have counts := List.Perm.length_eq conserves
      rw [Block.length_headsOf, Block.length_headsOf, sizes_given, sizes_given] at counts
      exact counts

/-! ## What an edit does to the stage -/

section Edits

variable {stage : Stage} {sprite : Sprite} {edit : ProgramEdit}

theorem moveBlock_back (found : stage.activeSprite? = some sprite) {source target : Nat}
    {answer : Answer} {program : List Block}
    (effect : (ProgramEdit.moveBlock source target).Effect answer sprite.program program) :
    (stage.withProgram program).performEdit (.moveBlock target source) = .ok (.done, stage) := by
  generalize same : sprite.program = before at effect
  cases effect with
  | @moved others _ _ block fromInside toInside =>
      have changed := activeSprite?_withProgram found (others.insertIdx target block)
      have present : (others.insertIdx target block)[target]? = some block := by
        rw [List.getElem?_insertIdx_self, if_pos toInside]
      have inside : source < (others.insertIdx target block).length := by
        rw [List.length_insertIdx_of_le_length toInside]
        exact Nat.lt_succ_of_le fromInside
      rw [performEdit_moveBlock changed present inside, withProgram_withProgram,
        List.eraseIdx_insertIdx_self, ← same, withProgram_self found]

theorem not_outside (found : stage.activeSprite? = some sprite)
    (inside : ∀ index ∈ edit.indices, index < sprite.program.length) :
    ¬∃ program, stage.program = .ok program ∧ ∃ index ∈ edit.indices, program.length ≤ index := by
  rintro ⟨program, has, index, member, outside⟩
  rw [program_of_found found] at has
  cases has
  exact absurd (inside index member) (Nat.not_lt_of_le outside)

theorem outside_iff (stage : Stage) (edit : ProgramEdit) :
    (∃ index length, stage.performEdit edit = .error (.indexOutOfRange index length)) ↔
      ∃ program, stage.program = .ok program ∧
        ∃ index ∈ edit.indices, program.length ≤ index := by
  have outcome := stage.outcome edit
  generalize stage.performEdit edit = performed, edit.inPlace.run stage = ran at outcome
  cases outcome with
  | refused refusal =>
      cases refusal with
      | missing absent =>
          refine iff_of_false (fun ⟨_, _, told⟩ => nomatch told) fun ⟨program, has, _⟩ => ?_
          rw [program_of_absent absent] at has
          cases has
      | @outside _ _ index found first =>
          refine iff_of_true ⟨_, _, rfl⟩ ⟨_, program_of_found found, index, ?_⟩
          exact ⟨List.mem_of_find?_eq_some first, by simpa using List.find?_some first⟩
      | plain found parent =>
          have inside := (List.getElem?_eq_some_iff.mp parent).1
          refine iff_of_false (fun ⟨_, _, told⟩ => nomatch told) (not_outside found ?_)
          exact List.forall_mem_singleton.mpr inside
  | made found effect =>
      exact iff_of_false (fun ⟨_, _, told⟩ => nomatch told) (not_outside found effect.inside)

theorem made_of_performEdit {answer : Answer} {next : Stage}
    (done : stage.performEdit edit = .ok (answer, next)) :
    ∃ sprite program, stage.activeSprite? = some sprite ∧
      edit.Effect answer sprite.program program ∧ next = stage.withProgram program := by
  have outcome := stage.outcome edit
  rw [done] at outcome
  generalize edit.inPlace.run stage = ran at outcome
  cases outcome with
  | made found effect => exact ⟨_, _, found, effect, rfl⟩

end Edits

/-- An edit at fault leaves the stage as it was, also where it is made in place, and an index
is told to be out of range exactly if one of those of the edit is. Any other edit changes
nothing but the program of the active sprite, in which, at all depths, nothing is lost and
nothing is made up. A block that is moved stands at the index it is moved to, the others stay
in order, and the move the other way round undoes it. -/
theorem edits_conserve_blocks (stage : Stage) (edit : ProgramEdit) :
    (∀ fault left, edit.inPlace.run stage = .error fault left ↔
        stage.performEdit edit = .error fault ∧ left = stage) ∧
      (∀ answer next, edit.inPlace.run stage = .ok answer next ↔
        stage.performEdit edit = .ok (answer, next)) ∧
      ((∃ index length, stage.performEdit edit = .error (.indexOutOfRange index length)) ↔
        ∃ program, stage.program = .ok program ∧
          ∃ index ∈ edit.indices, program.length ≤ index) ∧
      ∀ answer next, stage.performEdit edit = .ok (answer, next) →
        ∃ sprite program, stage.activeSprite? = some sprite ∧
          next.activeSprite? = some { sprite with program } ∧
          stage.Reprograms sprite program next ∧
          edit.Conserves answer sprite.program program ∧
          answer.block?.elim 0 Block.size + ({ sprite with program } : Sprite).blockCount =
            edit.block?.elim 0 Block.size + sprite.blockCount ∧
          ∀ source target, edit = .moveBlock source target →
            Moved source target sprite.program program ∧
              next.performEdit (.moveBlock target source) = .ok (.done, stage) := by
  refine ⟨?_, ?_, stage.outside_iff edit, ?_⟩
  · intro fault left
    have outcome := stage.outcome edit
    generalize stage.performEdit edit = performed, edit.inPlace.run stage = ran at outcome ⊢
    cases outcome with
    | refused refusal => simp [eq_comm]
    | made found effect => simp
  · intro answer next
    have outcome := stage.outcome edit
    generalize stage.performEdit edit = performed, edit.inPlace.run stage = ran at outcome ⊢
    cases outcome with
    | refused refusal => simp
    | made found effect => simp
  · intro answer next done
    rcases made_of_performEdit done with ⟨sprite, program, found, effect, rfl⟩
    have conserves := effect.conserves
    refine ⟨sprite, program, found, activeSprite?_withProgram found program,
      reprograms found program, conserves, conserves.sizes, ?_⟩
    rintro source target rfl
    exact ⟨effect.moves, moveBlock_back found effect⟩

def nested : Stage :=
  (withExtent 0 100.0).withProgram
    [.container (Block.new .repeatTimes ⟨1⟩).head
        [.container (Block.new .repeatTimes ⟨2⟩).head [.new .say ⟨3⟩]],
      .new .moveSteps ⟨4⟩, .new .say ⟨5⟩]

/-- The outer loop goes behind the last block and back, but not farther; a block without
children takes none; and without the loop there are three blocks less. -/
theorem edits_conserve_blocks_nested :
    (∃ moved, nested.performEdit (.moveBlock 0 2) = .ok (.done, moved) ∧
        moved.performEdit (.moveBlock 2 0) = .ok (.done, nested)) ∧
      (∃ index length, nested.performEdit (.moveBlock 0 3) =
        .error (.indexOutOfRange index length)) ∧
      (ProgramEdit.addChild 1 (.new .say ⟨6⟩)).inPlace.run nested =
        .error (.notContainer ⟨4⟩) nested ∧
      ∃ taken left sprite, nested.performEdit (.removeBlock 0) = .ok (taken, left) ∧
        left.activeSprite? = some sprite ∧ sprite.blockCount = 2 := by
  refine ⟨?_, ?_, ?_, ?_⟩
  · have done : ∃ moved, nested.performEdit (.moveBlock 0 2) = .ok (.done, moved) := ⟨_, rfl⟩
    rcases done with ⟨moved, done⟩
    rcases (edits_conserve_blocks nested _).2.2.2 _ _ done with ⟨_, _, _, _, _, _, _, moves⟩
    exact ⟨moved, done, (moves 0 2 rfl).2⟩
  · exact (edits_conserve_blocks nested (.moveBlock 0 3)).2.2.1.mpr
      ⟨_, rfl, 3, List.mem_cons_of_mem 0 (List.mem_singleton_self 3), Nat.le_refl 3⟩
  · refine ((edits_conserve_blocks nested _).1 _ _).mpr ⟨?_, rfl⟩
    rfl
  · have done : ∃ taken left, nested.performEdit (.removeBlock 0) = .ok (.taken taken, left) ∧
        taken.size = 3 := ⟨_, _, rfl, rfl⟩
    rcases done with ⟨taken, left, done, size⟩
    rcases (edits_conserve_blocks nested _).2.2.2 _ _ done with
      ⟨sprite, program, found, active, _, _, counts, _⟩
    have whole : nested.activeSprite?.map Sprite.blockCount = some 5 := rfl
    rw [found] at whole
    refine ⟨.taken taken, left, _, done, active, ?_⟩
    have counts : taken.size + _ = 0 + sprite.blockCount := counts
    rw [size, Option.some.inj whole] at counts
    exact Nat.add_left_cancel counts

end Stage

end SpriteScript
