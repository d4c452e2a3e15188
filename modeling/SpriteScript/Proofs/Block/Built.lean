import SpriteScript.Proofs.Block.Schema
import SpriteScript.Stage.SpriteData

namespace SpriteScript

/-! Blocks that are read from a text, and all blocks that can be built. A text may leave
out inputs, repeat them, name others or give children to any block: a block that comes out
of it fits its kind at every node. -/

/-! ## Reading -/

theorem Inputs.readEntries_ascending {depth : Nat} {inputs result : Inputs}
    {entries : List (Option String × Json)} (ascending : inputs.IsAscending)
    (done : readEntries depth inputs entries = .ok result) : result.IsAscending := by
  induction entries generalizing inputs with
  | nil =>
      cases done
      exact ascending
  | cons entry rest induction =>
      rcases entry with ⟨_ | name, tree⟩
      · cases done
      · rcases ok_of_bind done with ⟨input, _, done⟩
        exact induction (ascending.insert name input) done

theorem Inputs.read_ascending {depth : Nat} {json : Json} {inputs : Inputs}
    (done : read depth json = .ok inputs) : inputs.IsAscending := by
  rcases ok_of_bind done with ⟨entries, _, done⟩
  have empty : IsAscending [] := List.Pairwise.nil
  exact readEntries_ascending empty done

namespace Block

structure Draft.Holds (inputsHold : Inputs → Prop) (childHolds : Block → Prop) (draft : Draft) :
    Prop where
  inputs : ∀ inputs, draft.inputs = some inputs → inputsHold inputs
  children : ∀ children, draft.children = some (some children) →
    ∀ child ∈ children, childHolds child

section

variable {depth : Nat} {readChild : Json → Reading Fault Block} {inputsHold : Inputs → Prop}
  {childHolds : Block → Prop}
  (inputsRead : ∀ tree inputs, Inputs.read depth tree = .ok inputs → inputsHold inputs)
  (childRead : ∀ tree child, readChild tree = .ok child → childHolds child)
include inputsRead childRead

theorem Draft.Holds.fill {field : Field Fault Draft} (known : field ∈ Draft.fields depth readChild)
    {draft next : Draft} {tree : Json} (holds : draft.Holds inputsHold childHolds)
    (done : field.fill draft tree = .ok next) : next.Holds inputsHold childHolds := by
  simp only [Draft.fields, List.mem_cons, List.not_mem_nil, or_false] at known
  rcases known with rfl | rfl | rfl | rfl
  · rcases ok_of_bind done with ⟨number, _, done⟩
    cases done
    exact ⟨holds.inputs, holds.children⟩
  · rcases ok_of_bind done with ⟨kind, _, done⟩
    cases done
    exact ⟨holds.inputs, holds.children⟩
  · rcases ok_of_bind done with ⟨inputs, read, done⟩
    cases done
    refine ⟨?_, holds.children⟩
    intro inputs same
    cases same
    exact inputsRead tree inputs read
  · dsimp only at done
    split at done
    · cases done
      exact ⟨holds.inputs, fun children same => by cases same⟩
    · rcases ok_of_bind done with ⟨items, _, done⟩
      rcases ok_of_bind done with ⟨children, read, done⟩
      cases done
      refine ⟨holds.inputs, ?_⟩
      intro children same child member
      cases same
      rcases Reading.mem_list read child member with ⟨item, _, itemRead⟩
      exact childRead item child itemRead

theorem Draft.holds_of_read {limit : Nat} {draft : Draft} {json : Json}
    (filled : Field.fillAll (Draft.fields depth readChild) limit .empty json = .ok draft) :
    draft.Holds inputsHold childHolds := by
  have empty : Draft.empty.Holds inputsHold childHolds := by
    constructor <;> exact fun _ same => by cases same
  exact Field.fillAll_keeps (Draft.Holds inputsHold childHolds)
    (fun field known draft tree next holds done =>
      holds.fill inputsRead childRead known done) empty filled

end

theorem Draft.finish_isSound {draft : Draft} {block : Block}
    (sound : draft.Holds Inputs.IsAscending IsSound) (done : draft.finish = .ok block) :
    block.IsSound := by
  rcases draft with ⟨_ | id, _ | kind, _ | inputs, children⟩ <;> try cases done
  simp only [Draft.finish] at done
  split at done
  · next made =>
      cases done
      refine ofParts_isSound (sound.inputs inputs rfl) ?_ made
      intro inner same
      refine sound.children inner ?_
      cases children with
      | none => cases same
      | some children? => exact congrArg some same
  · cases done

theorem read_isSound {depth : Nat} {json : Json} {block : Block}
    (done : read depth json = .ok block) : block.IsSound := by
  induction depth using Nat.twoStepInduction generalizing json block with
  | zero => cases done
  | one => cases done
  | more depth induction _ =>
      rcases ok_of_bind done with ⟨draft, filled, done⟩
      exact Draft.finish_isSound (Draft.holds_of_read (fun _ _ => Inputs.read_ascending)
        (fun _ _ => induction) filled) done

theorem ofText_isSound {text : String} {block : Block} (done : ofText text = .ok block) :
    block.IsSound :=
  read_isSound (Reading.read_of_text done)

end Block

namespace Sprite

structure Draft.Holds (blockHolds : Block → Prop) (durationHolds : Float → Prop) (draft : Draft) :
    Prop where
  program : ∀ program, draft.program = some program → ∀ block ∈ program, blockHolds block
  sayDuration : ∀ duration, draft.sayDuration = some duration → durationHolds duration
  thinkDuration : ∀ duration, draft.thinkDuration = some duration → durationHolds duration

section

variable {blockHolds : Block → Prop} {durationHolds : Float → Prop}
  (durationRead : ∀ tree duration, Json.asDouble? tree = some duration → durationHolds duration)
include durationRead

theorem Draft.Holds.fill {depth : Nat}
    (blockRead : ∀ tree block, Block.read (depth - 1) tree = .ok block → blockHolds block)
    {field : Field Fault Draft} (known : field ∈ Draft.fields depth) {draft next : Draft}
    {tree : Json} (holds : draft.Holds blockHolds durationHolds)
    (done : field.fill draft tree = .ok next) : next.Holds blockHolds durationHolds := by
  simp only [Draft.fields, List.mem_cons, List.not_mem_nil, or_false] at known
  rcases known with rfl | rfl | rfl | rfl | rfl | rfl | rfl | rfl | rfl | rfl <;>
    rcases ok_of_bind done with ⟨value, read, done⟩ <;> cases done
  -- The program and both durations are filled; any other field leaves them as they are.
  case inr.inr.inr.inr.inl =>
    rcases ok_of_bind read with ⟨items, _, read⟩
    refine ⟨?_, holds.sayDuration, holds.thinkDuration⟩
    intro program same block member
    cases same
    rcases Reading.mem_list read block member with ⟨item, _, itemRead⟩
    exact blockRead item block itemRead
  case inr.inr.inr.inr.inr.inr.inl =>
    refine ⟨holds.program, ?_, holds.thinkDuration⟩
    intro duration same
    cases same
    exact durationRead tree value (Reading.ofOption_eq_ok.mp read)
  case inr.inr.inr.inr.inr.inr.inr.inr.inl =>
    refine ⟨holds.program, holds.sayDuration, ?_⟩
    intro duration same
    cases same
    exact durationRead tree value (Reading.ofOption_eq_ok.mp read)
  all_goals exact ⟨holds.program, holds.sayDuration, holds.thinkDuration⟩

theorem ofText_holds {text : String} {sprite : Sprite}
    (blockRead : ∀ tree block, Block.read (Json.depthLimit - 2) tree = .ok block →
      blockHolds block)
    (done : ofText text = .ok sprite) :
    (∀ block ∈ sprite.program, blockHolds block) ∧ durationHolds sprite.sayDuration ∧
      durationHolds sprite.thinkDuration := by
  rcases ok_of_bind (Reading.read_of_text done) with ⟨draft, filled, finished⟩
  have empty : Draft.empty.Holds blockHolds durationHolds := by
    constructor <;> exact fun _ same => by cases same
  have holds : draft.Holds blockHolds durationHolds :=
    Field.fillAll_keeps (Draft.Holds blockHolds durationHolds)
      (fun field known draft tree next holds done =>
        holds.fill durationRead blockRead known done) empty filled
  rw [Reading.ofOption_eq_ok] at finished
  simp only [Draft.finish, Option.pure_def, Option.bind_eq_bind, Option.bind_eq_some_iff,
    Option.some.injEq] at finished
  rcases finished with ⟨_, _, _, _, _, _, _, _, program, programHas, _, _, say, sayHas, _, _,
    think, thinkHas, _, _, rfl⟩
  exact ⟨holds.program program programHas, holds.sayDuration say sayHas,
    holds.thinkDuration think thinkHas⟩

end

theorem ofText_isSound {text : String} {sprite : Sprite} (done : ofText text = .ok sprite) :
    ∀ block ∈ sprite.program, block.IsSound :=
  (ofText_holds (fun _ _ _ => trivial) (fun _ _ => Block.read_isSound) done).1

end Sprite

/-! ## All blocks -/

namespace Block

/-- The blocks that come out of any sequence of operations, readers of texts among them. -/
inductive Built : Block → Prop
  | new (kind : BlockKind) (id : BlockId) : Built (new kind id)
  | withInputs (kind : BlockKind) (values : List (String × InputValue)) (ids : BlockIds) :
      Built (withInputs kind values ids).1
  | create {name : String} {values : List (String × InputValue)} {ids : BlockIds}
      {made : Block × BlockIds} (created : (create name values ids).1 = .ok made) : Built made.1
  | setInput {block changed : Block} {name : String} {value : InputValue} (built : Built block)
      (set : block.setInput? name value = some changed) : Built changed
  | push {block child pushed : Block} (built : Built block) (childBuilt : Built child)
      (done : block.push child = .ok pushed) : Built pushed
  | removed {block : Block} {index : Nat} {taken : Block × Block} (built : Built block)
      (done : block.remove index = .ok taken) : Built taken.1
  | left {block : Block} {index : Nat} {taken : Block × Block} (built : Built block)
      (done : block.remove index = .ok taken) : Built taken.2
  | child {block child : Block} {children : List Block} (built : Built block)
      (has : block.children? = some children) (member : child ∈ children) : Built child
  | duplicate {block : Block} (built : Built block) (ids : BlockIds) :
      Built (duplicate ids block).1
  | ofText {text : String} {block : Block} (read : ofText text = .ok block) : Built block
  | ofSprite {text : String} {sprite : Sprite} {block : Block}
      (read : Sprite.ofText text = .ok sprite) (member : block ∈ sprite.program) : Built block

theorem Built.isSound {block : Block} (built : block.Built) : block.IsSound := by
  induction built with
  | new kind id => exact new_isSound kind id
  | withInputs kind values ids => exact withInputs_isSound kind values ids
  | create created => exact create_isSound created
  | setInput _ set sound => exact sound.setInput? set
  | push _ _ done sound childSound => exact sound.push childSound done
  | removed _ done sound => exact (sound.remove done).1
  | left _ done sound => exact (sound.remove done).2
  | child _ has member sound => exact sound.child has member
  | duplicate _ ids sound => exact sound.duplicate ids
  | ofText read => exact ofText_isSound read
  | ofSprite read member => exact Sprite.ofText_isSound read _ member

end Block

end SpriteScript
