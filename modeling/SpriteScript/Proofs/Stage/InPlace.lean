import Mathlib.Data.List.InsertIdx
import SpriteScript.Proofs.Stage.Stocked

namespace SpriteScript

/-! What an edit of a program can come to, and what it leaves behind. Edits are made here in
place as well, one change of the program after the other, so that what was changed before a fault
would stay changed. All checks come before the first change, so a fault leaves the stage as it
was, and otherwise both ways of editing agree. -/

namespace Stage

inductive ProgramEdit.Answer
  | done
  | taken (block : Block)
  | known (isKnown : Bool)

namespace ProgramEdit

def Answer.block? : Answer → Option Block
  | .taken block => some block
  | _ => none

def indices : ProgramEdit → List Nat
  | .addBlock _ => []
  | .removeBlock index => [index]
  | .moveBlock source target => [source, target]
  | .setBlockInput index _ _ => [index]
  | .addChild index _ => [index]

end ProgramEdit

open ProgramEdit (Answer)

def performEdit (stage : Stage) : ProgramEdit → Except Fault (Answer × Stage)
  | .addBlock block => do
      let next ← stage.addBlock block
      return (.done, next)
  | .removeBlock index => do
      let (block, next) ← stage.removeBlock index
      return (.taken block, next)
  | .moveBlock source target => do
      let next ← stage.moveBlock source target
      return (.done, next)
  | .setBlockInput index name value => do
      let (isKnown, next) ← stage.setBlockInput index name value
      return (.known isKnown, next)
  | .addChild index child => do
      let next ← stage.addChild index child
      return (.done, next)

theorem editProgram_eq (stage : Stage) (edit : ProgramEdit) :
    stage.editProgram edit = (stage.performEdit edit).map Prod.snd := by
  cases edit with
  | addBlock block =>
      rw [editProgram, performEdit]
      cases stage.addBlock block <;> rfl
  | removeBlock index =>
      rw [editProgram, performEdit]
      cases stage.removeBlock index <;> rfl
  | moveBlock source target =>
      rw [editProgram, performEdit]
      cases stage.moveBlock source target <;> rfl
  | setBlockInput index name value =>
      rw [editProgram, performEdit]
      cases stage.setBlockInput index name value <;> rfl
  | addChild index child =>
      rw [editProgram, performEdit]
      cases stage.addChild index child <;> rfl

/-! ## Edits in place -/

namespace InPlace

/-! Each step finds the stage as the steps before it left it. -/

def readProgram : EStateM Fault Stage (List Block) := do
  ofExcept (← get).program

def checkIndex (index : Nat) : EStateM Fault Stage Unit := do
  let program ← readProgram
  if index < program.length then return () else throw (.indexOutOfRange index program.length)

def readBlock (index : Nat) : EStateM Fault Stage Block := do
  ofExcept (blockAt (← readProgram) index)

def takeOut (index : Nat) : EStateM Fault Stage Block := do
  let block ← readBlock index
  let program ← readProgram
  modify fun stage => stage.withProgram (program.eraseIdx index)
  return block

def putIn (index : Nat) (block : Block) : EStateM Fault Stage Unit := do
  let program ← readProgram
  modify fun stage => stage.withProgram (program.insertIdx index block)

def replace (index : Nat) (block : Block) : EStateM Fault Stage Unit := do
  let program ← readProgram
  modify fun stage => stage.withProgram (program.set index block)

end InPlace

open InPlace

def ProgramEdit.inPlace : ProgramEdit → EStateM Fault Stage Answer
  | .addBlock block => do
      putIn (← readProgram).length block
      return .done
  | .removeBlock index => do
      checkIndex index
      return .taken (← takeOut index)
  | .moveBlock source target => do
      checkIndex source
      checkIndex target
      let block ← takeOut source
      putIn target block
      return .done
  | .setBlockInput index name value => do
      checkIndex index
      match (← readBlock index).setInput? name value with
      | some changed =>
          replace index changed
          return .known true
      | none => return .known false
  | .addChild index child => do
      checkIndex index
      replace index (← ofExcept ((← readBlock index).push child))
      return .done

/-! ## What can come out -/

inductive Refusal (stage : Stage) : ProgramEdit → Fault → Prop
  | missing {edit : ProgramEdit} (absent : stage.activeSprite? = none) :
      Refusal stage edit (.spriteNotFound stage.active)
  /-- The first of the indices that is not below the length is told. -/
  | outside {edit : ProgramEdit} {sprite : Sprite} {index : Nat}
      (found : stage.activeSprite? = some sprite)
      (first : edit.indices.find? (fun index => sprite.program.length ≤ index) = some index) :
      Refusal stage edit (.indexOutOfRange index sprite.program.length)
  | plain {sprite : Sprite} {index : Nat} {child : Block} {head : Block.Head}
      (found : stage.activeSprite? = some sprite)
      (parent : sprite.program[index]? = some (.plain head)) :
      Refusal stage (.addChild index child) (.notContainer head.id)

/-- What an edit that is not refused answers, and makes of a program. The block that it is about
stands at some index among the others. -/
inductive ProgramEdit.Effect : ProgramEdit → Answer → List Block → List Block → Prop
  | added (program : List Block) (block : Block) :
      Effect (.addBlock block) .done program (program ++ [block])
  | removed {others : List Block} {index : Nat} {block : Block} (inside : index ≤ others.length) :
      Effect (.removeBlock index) (.taken block) (others.insertIdx index block) others
  | moved {others : List Block} {source target : Nat} {block : Block}
      (fromInside : source ≤ others.length) (toInside : target ≤ others.length) :
      Effect (.moveBlock source target) .done (others.insertIdx source block)
        (others.insertIdx target block)
  | changed {others : List Block} {index : Nat} {name : String} {value : InputValue}
      {block next : Block} (inside : index ≤ others.length)
      (set : block.setInput? name value = some next) :
      Effect (.setBlockInput index name value) (.known true) (others.insertIdx index block)
        (others.insertIdx index next)
  | unknown {program : List Block} {index : Nat} {name : String} {value : InputValue}
      {block : Block} (present : program[index]? = some block)
      (unset : block.setInput? name value = none) :
      Effect (.setBlockInput index name value) (.known false) program program
  | pushed {others : List Block} {index : Nat} {head : Block.Head} {children : List Block}
      {child : Block} (inside : index ≤ others.length) :
      Effect (.addChild index child) .done (others.insertIdx index (.container head children))
        (others.insertIdx index (.container head (children ++ [child])))

/-- What both ways of editing come to: an edit is refused and the stage stays, or it has its
effect on the program of the active sprite. -/
inductive Outcome (stage : Stage) (edit : ProgramEdit) :
    Except Fault (Answer × Stage) → EStateM.Result Fault Stage Answer → Prop
  | refused {fault : Fault} (refusal : stage.Refusal edit fault) :
      Outcome stage edit (.error fault) (.error fault stage)
  | made {sprite : Sprite} {answer : Answer} {program : List Block}
      (found : stage.activeSprite? = some sprite)
      (effect : edit.Effect answer sprite.program program) :
      Outcome stage edit (.ok (answer, stage.withProgram program))
        (.ok answer (stage.withProgram program))

/-! ## Programs on the stage -/

def Reprograms (stage : Stage) (sprite : Sprite) (program : List Block) (next : Stage) : Prop :=
  ∃ before after, stage.sprites = before ++ sprite :: after ∧
    (∀ other ∈ before, other.id ≠ stage.active) ∧ sprite.id = stage.active ∧
    next = { stage with sprites := before ++ { sprite with program } :: after }

section Program

variable {stage : Stage} {sprite : Sprite}

theorem program_of_found (found : stage.activeSprite? = some sprite) :
    stage.program = .ok sprite.program := by
  rw [Stage.program, found]

theorem program_of_absent (absent : stage.activeSprite? = none) :
    stage.program = .error (.spriteNotFound stage.active) := by
  rw [Stage.program, absent]

theorem activeSprite?_withProgram (found : stage.activeSprite? = some sprite)
    (program : List Block) :
    (stage.withProgram program).activeSprite? = some { sprite with program } := by
  have changed := stage.sprite?_changeSprite stage.active stage.active
    (fun sprite => { sprite with program }) fun _ => rfl
  rw [if_pos rfl, show stage.sprite? stage.active = some sprite from found] at changed
  exact changed

theorem reprograms (found : stage.activeSprite? = some sprite) (program : List Block) :
    stage.Reprograms sprite program (stage.withProgram program) := by
  rcases List.find?_eq_some_iff_append.mp found with ⟨same, before, after, split, unequal⟩
  have isActive := beq_iff_eq.mp same
  have others : ∀ other ∈ before, other.id ≠ stage.active := by simpa using unequal
  refine ⟨before, after, split, others, isActive, ?_⟩
  have changed : changeFirst stage.active (fun sprite => { sprite with program })
      (before ++ sprite :: after) = before ++ { sprite with program } :: after := by
    clear split unequal
    induction before with
    | nil => rw [List.nil_append, changeFirst, if_pos isActive, List.nil_append]
    | cons first rest induction =>
        rcases List.forall_mem_cons.mp others with ⟨different, others⟩
        rw [List.cons_append, changeFirst, if_neg different, induction others, List.cons_append]
  rw [withProgram, changeSprite, split, changed]

theorem withProgram_self (found : stage.activeSprite? = some sprite) :
    stage.withProgram sprite.program = stage := by
  rcases reprograms found sprite.program with ⟨before, after, split, _, _, same⟩
  rw [same, ← split]

theorem withProgram_withProgram (stage : Stage) (first second : List Block) :
    (stage.withProgram first).withProgram second = stage.withProgram second := by
  have twice (id : SpriteId) (sprites : List Sprite) :
      changeFirst id (fun sprite => { sprite with program := second })
          (changeFirst id (fun sprite => { sprite with program := first }) sprites) =
        changeFirst id (fun sprite => { sprite with program := second }) sprites := by
    induction sprites with
    | nil => rfl
    | cons sprite rest induction =>
        by_cases same : sprite.id = id
        · simp [changeFirst, same]
        · simp [changeFirst, same, induction]
  simp only [Stage.withProgram, changeSprite]
  rw [twice]

theorem blockAt_of_present {program : List Block} {index : Nat} {block : Block}
    (present : program[index]? = some block) : blockAt program index = .ok block := by
  rw [blockAt, present]

theorem blockAt_of_outside {program : List Block} {index : Nat}
    (outside : ¬index < program.length) :
    blockAt program index = .error (.indexOutOfRange index program.length) := by
  rw [blockAt, List.getElem?_eq_none (Nat.le_of_not_lt outside)]

theorem lookUp_of_present {α : Type} {index : Nat} {block : Block}
    (found : stage.activeSprite? = some sprite) (present : sprite.program[index]? = some block)
    (next : List Block → Block → Except Fault α) :
    (do
      let program ← stage.program
      let block ← blockAt program index
      next program block) = next sprite.program block := by
  rw [program_of_found found, bind_of_ok rfl, blockAt_of_present present, bind_of_ok rfl]

theorem lookUp_of_outside {α : Type} {index : Nat} (found : stage.activeSprite? = some sprite)
    (outside : ¬index < sprite.program.length) (next : List Block → Block → Except Fault α) :
    (do
      let program ← stage.program
      let block ← blockAt program index
      next program block) = .error (.indexOutOfRange index sprite.program.length) := by
  rw [program_of_found found, bind_of_ok rfl, blockAt_of_outside outside]
  rfl

theorem insertIdx_others {program : List Block} {index : Nat} {block : Block}
    (present : program[index]? = some block) :
    index ≤ (program.eraseIdx index).length ∧
      program = (program.eraseIdx index).insertIdx index block ∧
      ∀ next, program.set index next = (program.eraseIdx index).insertIdx index next := by
  rcases List.getElem?_eq_some_iff.mp present with ⟨inside, rfl⟩
  refine ⟨?_, (List.insertIdx_eraseIdx_getElem inside).symm, ?_⟩
  · rw [List.length_eraseIdx_of_lt inside]
    exact Nat.le_sub_one_of_lt inside
  · intro next
    exact (List.insertIdx_eraseIdx_self inside.ne next).symm

end Program

/-! ## Steps in place -/

section Steps

variable {α β : Type} {stage middle : Stage} {sprite : Sprite} {index : Nat} {block : Block}

theorem run_bind_of_ok {first : EStateM Fault Stage α} {value : α}
    (done : first.run stage = .ok value middle) (next : α → EStateM Fault Stage β) :
    (first >>= next).run stage = (next value).run middle := by
  rw [EStateM.run_bind, done]

theorem run_bind_of_error {first : EStateM Fault Stage α} {fault : Fault}
    (done : first.run stage = .error fault middle) (next : α → EStateM Fault Stage β) :
    (first >>= next).run stage = .error fault middle := by
  rw [EStateM.run_bind, done]

theorem run_readProgram (found : stage.activeSprite? = some sprite) :
    readProgram.run stage = .ok sprite.program stage := by
  have current : (get : EStateM Fault Stage Stage).run stage = .ok stage stage := rfl
  rw [readProgram, run_bind_of_ok current, program_of_found found]
  rfl

theorem run_readProgram_of_absent (absent : stage.activeSprite? = none) :
    readProgram.run stage = .error (.spriteNotFound stage.active) stage := by
  have current : (get : EStateM Fault Stage Stage).run stage = .ok stage stage := rfl
  rw [readProgram, run_bind_of_ok current, program_of_absent absent]
  rfl

theorem run_checkIndex (found : stage.activeSprite? = some sprite)
    (inside : index < sprite.program.length) : (checkIndex index).run stage = .ok () stage := by
  rw [checkIndex, run_bind_of_ok (run_readProgram found), if_pos inside]
  rfl

theorem run_checkIndex_of_outside (found : stage.activeSprite? = some sprite)
    (outside : ¬index < sprite.program.length) :
    (checkIndex index).run stage =
      .error (.indexOutOfRange index sprite.program.length) stage := by
  rw [checkIndex, run_bind_of_ok (run_readProgram found), if_neg outside]
  rfl

theorem run_readBlock (found : stage.activeSprite? = some sprite)
    (present : sprite.program[index]? = some block) :
    (readBlock index).run stage = .ok block stage := by
  rw [readBlock, run_bind_of_ok (run_readProgram found), blockAt_of_present present]
  rfl

theorem run_takeOut (found : stage.activeSprite? = some sprite)
    (present : sprite.program[index]? = some block) :
    (takeOut index).run stage =
      .ok block (stage.withProgram (sprite.program.eraseIdx index)) := by
  rw [takeOut, run_bind_of_ok (run_readBlock found present),
    run_bind_of_ok (run_readProgram found)]
  rfl

theorem run_putIn (found : stage.activeSprite? = some sprite) (index : Nat) (block : Block) :
    (putIn index block).run stage =
      .ok () (stage.withProgram (sprite.program.insertIdx index block)) := by
  rw [putIn, run_bind_of_ok (run_readProgram found)]
  rfl

theorem run_replace (found : stage.activeSprite? = some sprite) (index : Nat) (block : Block) :
    (replace index block).run stage =
      .ok () (stage.withProgram (sprite.program.set index block)) := by
  rw [replace, run_bind_of_ok (run_readProgram found)]
  rfl

end Steps

/-! ## One edit -/

section Outcome

variable {stage : Stage} {sprite : Sprite}

theorem outcome_of_absent (absent : stage.activeSprite? = none) (edit : ProgramEdit) :
    Outcome stage edit (stage.performEdit edit) (edit.inPlace.run stage) := by
  have refused : stage.performEdit edit = .error (.spriteNotFound stage.active) := by
    cases edit <;> exact bind_of_error (bind_of_error (program_of_absent absent) _) _
  have refusedInPlace :
      edit.inPlace.run stage = .error (.spriteNotFound stage.active) stage := by
    have unread := run_readProgram_of_absent absent
    cases edit with
    | addBlock block => exact run_bind_of_error unread _
    | _ => exact run_bind_of_error (run_bind_of_error unread _) _
  rw [refused, refusedInPlace]
  exact .refused (.missing absent)

theorem outcome_addBlock (found : stage.activeSprite? = some sprite) (block : Block) :
    Outcome stage (.addBlock block) (stage.performEdit (.addBlock block))
      ((ProgramEdit.addBlock block).inPlace.run stage) := by
  have made : stage.performEdit (.addBlock block) =
      .ok (.done, stage.withProgram (sprite.program ++ [block])) := by
    rw [performEdit, addBlock, program_of_found found]
    rfl
  have madeInPlace : (ProgramEdit.addBlock block).inPlace.run stage =
      .ok .done (stage.withProgram (sprite.program ++ [block])) := by
    rw [ProgramEdit.inPlace, run_bind_of_ok (run_readProgram found),
      run_bind_of_ok (run_putIn found _ block), List.insertIdx_length_self]
    rfl
  rw [made, madeInPlace]
  exact .made found (.added sprite.program block)

theorem outcome_removeBlock (found : stage.activeSprite? = some sprite) (index : Nat) :
    Outcome stage (.removeBlock index) (stage.performEdit (.removeBlock index))
      ((ProgramEdit.removeBlock index).inPlace.run stage) := by
  by_cases inside : index < sprite.program.length
  · have present := List.getElem?_eq_getElem inside
    generalize sprite.program[index] = block at present
    have made : stage.performEdit (.removeBlock index) =
        .ok (.taken block, stage.withProgram (sprite.program.eraseIdx index)) := by
      rw [performEdit, removeBlock, lookUp_of_present found present]
      rfl
    have madeInPlace : (ProgramEdit.removeBlock index).inPlace.run stage =
        .ok (.taken block) (stage.withProgram (sprite.program.eraseIdx index)) := by
      rw [ProgramEdit.inPlace, run_bind_of_ok (run_checkIndex found inside),
        run_bind_of_ok (run_takeOut found present)]
      rfl
    rcases insertIdx_others present with ⟨least, whole, _⟩
    have effect := @ProgramEdit.Effect.removed _ _ block least
    rw [← whole] at effect
    rw [made, madeInPlace]
    exact .made found effect
  · rw [performEdit, removeBlock, lookUp_of_outside found inside, ProgramEdit.inPlace,
      run_bind_of_error (run_checkIndex_of_outside found inside)]
    refine .refused (.outside found ?_)
    simp [ProgramEdit.indices, Nat.le_of_not_lt inside]

theorem performEdit_moveBlock (found : stage.activeSprite? = some sprite) {source target : Nat}
    {block : Block} (present : sprite.program[source]? = some block)
    (inside : target < sprite.program.length) :
    stage.performEdit (.moveBlock source target) =
      .ok (.done, stage.withProgram ((sprite.program.eraseIdx source).insertIdx target block)) := by
  rw [performEdit, moveBlock, lookUp_of_present found present,
    blockAt_of_present (List.getElem?_eq_getElem inside)]
  rfl

theorem outcome_moveBlock (found : stage.activeSprite? = some sprite) (source target : Nat) :
    Outcome stage (.moveBlock source target) (stage.performEdit (.moveBlock source target))
      ((ProgramEdit.moveBlock source target).inPlace.run stage) := by
  by_cases fromInside : source < sprite.program.length
  · have present := List.getElem?_eq_getElem fromInside
    generalize sprite.program[source] = block at present
    rw [ProgramEdit.inPlace, run_bind_of_ok (run_checkIndex found fromInside)]
    by_cases toInside : target < sprite.program.length
    · have left := activeSprite?_withProgram found (sprite.program.eraseIdx source)
      rw [performEdit_moveBlock found present toInside,
        run_bind_of_ok (run_checkIndex found toInside),
        run_bind_of_ok (run_takeOut found present), run_bind_of_ok (run_putIn left target block),
        withProgram_withProgram]
      rcases insertIdx_others present with ⟨least, whole, _⟩
      -- Any index of the program is at most the length that is left without the block.
      have targetLeast := (insertIdx_others (List.getElem?_eq_getElem toInside)).1
      rw [List.length_eraseIdx_of_lt toInside, ← List.length_eraseIdx_of_lt fromInside]
        at targetLeast
      have effect := @ProgramEdit.Effect.moved _ _ _ block least targetLeast
      rw [← whole] at effect
      exact .made found effect
    · rw [performEdit, moveBlock, lookUp_of_present found present, blockAt_of_outside toInside,
        run_bind_of_error (run_checkIndex_of_outside found toInside)]
      refine .refused (.outside found ?_)
      simp [ProgramEdit.indices, fromInside, Nat.le_of_not_lt toInside]
  · rw [performEdit, moveBlock, lookUp_of_outside found fromInside, ProgramEdit.inPlace,
      run_bind_of_error (run_checkIndex_of_outside found fromInside)]
    refine .refused (.outside found ?_)
    simp [ProgramEdit.indices, Nat.le_of_not_lt fromInside]

theorem outcome_setBlockInput (found : stage.activeSprite? = some sprite) (index : Nat)
    (name : String) (value : InputValue) :
    Outcome stage (.setBlockInput index name value)
      (stage.performEdit (.setBlockInput index name value))
      ((ProgramEdit.setBlockInput index name value).inPlace.run stage) := by
  by_cases inside : index < sprite.program.length
  · have present := List.getElem?_eq_getElem inside
    generalize sprite.program[index] = block at present
    rw [performEdit, setBlockInput, lookUp_of_present found present, ProgramEdit.inPlace,
      run_bind_of_ok (run_checkIndex found inside),
      run_bind_of_ok (run_readBlock found present)]
    cases set : block.setInput? name value with
    | some next =>
        rcases insertIdx_others present with ⟨least, whole, exchange⟩
        have effect := ProgramEdit.Effect.changed least set
        rw [← whole, ← exchange] at effect
        rw [run_bind_of_ok (run_replace found index next)]
        exact .made found effect
    | none =>
        -- To write nothing is to write the program back.
        have kept : Outcome stage (.setBlockInput index name value)
            (.ok (.known false, stage.withProgram sprite.program))
            (.ok (.known false) (stage.withProgram sprite.program)) :=
          .made found (.unknown present set)
        rw [withProgram_self found] at kept
        exact kept
  · rw [performEdit, setBlockInput, lookUp_of_outside found inside, ProgramEdit.inPlace,
      run_bind_of_error (run_checkIndex_of_outside found inside)]
    refine .refused (.outside found ?_)
    simp [ProgramEdit.indices, Nat.le_of_not_lt inside]

theorem outcome_addChild (found : stage.activeSprite? = some sprite) (index : Nat)
    (child : Block) :
    Outcome stage (.addChild index child) (stage.performEdit (.addChild index child))
      ((ProgramEdit.addChild index child).inPlace.run stage) := by
  by_cases inside : index < sprite.program.length
  · have present := List.getElem?_eq_getElem inside
    generalize sprite.program[index] = block at present
    rw [performEdit, addChild, lookUp_of_present found present, ProgramEdit.inPlace,
      run_bind_of_ok (run_checkIndex found inside),
      run_bind_of_ok (run_readBlock found present)]
    cases block with
    | plain head => exact .refused (.plain found present)
    | container head children =>
        rcases insertIdx_others present with ⟨least, whole, exchange⟩
        have pushed : (ofExcept (Block.push (.container head children) child) :
            EStateM Fault Stage Block).run stage =
              .ok (.container head (children ++ [child])) stage := rfl
        have effect := @ProgramEdit.Effect.pushed _ _ head children child least
        rw [← whole, ← exchange] at effect
        rw [run_bind_of_ok pushed, run_bind_of_ok (run_replace found index _)]
        exact .made found effect
  · rw [performEdit, addChild, lookUp_of_outside found inside, ProgramEdit.inPlace,
      run_bind_of_error (run_checkIndex_of_outside found inside)]
    refine .refused (.outside found ?_)
    simp [ProgramEdit.indices, Nat.le_of_not_lt inside]

theorem outcome (stage : Stage) (edit : ProgramEdit) :
    Outcome stage edit (stage.performEdit edit) (edit.inPlace.run stage) := by
  cases found : stage.activeSprite? with
  | none => exact outcome_of_absent found edit
  | some sprite =>
      cases edit with
      | addBlock block => exact outcome_addBlock found block
      | removeBlock index => exact outcome_removeBlock found index
      | moveBlock source target => exact outcome_moveBlock found source target
      | setBlockInput index name value => exact outcome_setBlockInput found index name value
      | addChild index child => exact outcome_addChild found index child

end Outcome

end Stage

end SpriteScript
