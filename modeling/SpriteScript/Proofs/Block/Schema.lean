import SpriteScript.Block.Data
import SpriteScript.Proofs.Block.Inputs
import SpriteScript.Proofs.Json.Record
import SpriteScript.Stage.Event

namespace SpriteScript

/-! Every block of a tree fits its kind: it has the inputs of the schema, and a list of
children exactly where the kind is a container. Whatever makes a block or changes it keeps
this at every node. -/

/-! ## The schema -/

theorem Definition.names_nodup (kind : BlockKind) : kind.definition.names.Nodup := by
  cases kind <;> decide

theorem Definition.inputs_ascending (definition : Definition) : definition.inputs.IsAscending := by
  have kept (slots : List Slot) (inputs : Inputs) (ascending : inputs.IsAscending) :
      (slots.foldl (fun inputs slot => inputs.insert slot.name slot.input) inputs).IsAscending := by
    induction slots generalizing inputs with
    | nil => exact ascending
    | cons slot rest induction => exact induction _ (ascending.insert slot.name slot.input)
  exact kept definition.slots [] List.Pairwise.nil

theorem Definition.mem_names_inputs (definition : Definition) (name : String) :
    name ∈ definition.inputs.names ↔ name ∈ definition.names := by
  have gathered (slots : List Slot) (inputs : Inputs) :
      name ∈ (slots.foldl (fun inputs slot => inputs.insert slot.name slot.input) inputs).names ↔
        name ∈ inputs.names ∨ name ∈ slots.map Slot.name := by
    induction slots generalizing inputs with
    | nil => simp
    | cons slot rest induction =>
        rw [List.foldl_cons, induction, Inputs.mem_names_insert, List.map_cons, List.mem_cons,
          or_comm (a := name = slot.name), or_assoc]
  exact (gathered definition.slots []).trans (or_iff_right List.not_mem_nil)

namespace Block

/-- The inputs are those of the schema of the kind, in ascending order. -/
structure Head.Fits (head : Head) : Prop where
  ascending : head.inputs.IsAscending
  names : head.inputs.names.Perm head.kind.definition.names

structure Fits (block : Block) : Prop where
  head : block.head.Fits
  children : block.children?.isSome = block.kind.isContainer

mutual

def nodes : Block → List Block
  | .plain head => [.plain head]
  | .container head children => .container head children :: nodesOf children

def nodesOf : List Block → List Block
  | [] => []
  | block :: rest => block.nodes ++ nodesOf rest

end

theorem nodesOf_eq (blocks : List Block) : nodesOf blocks = blocks.flatMap nodes := by
  induction blocks with
  | nil => rfl
  | cons block rest induction => rw [nodesOf, induction, List.flatMap_cons]

mutual

theorem length_nodes (block : Block) : block.nodes.length = block.size := by
  cases block with
  | plain head => rfl
  | container head children =>
      rw [nodes, List.length_cons, length_nodesOf, size, Nat.add_comm]

theorem length_nodesOf (blocks : List Block) : (nodesOf blocks).length = sizes blocks := by
  cases blocks with
  | nil => rfl
  | cons block rest => rw [nodesOf, List.length_append, length_nodes, length_nodesOf, sizes]

end

def IsSound (block : Block) : Prop := ∀ node ∈ block.nodes, node.Fits

theorem isSound_plain {head : Head} :
    (plain head).IsSound ↔ head.Fits ∧ head.kind.isContainer = false := by
  simp only [IsSound, nodes, List.forall_mem_singleton]
  exact ⟨fun fits => ⟨fits.head, fits.children.symm⟩, fun ⟨fits, leaf⟩ => ⟨fits, leaf.symm⟩⟩

theorem isSound_container {head : Head} {children : List Block} :
    (container head children).IsSound ↔
      head.Fits ∧ head.kind.isContainer = true ∧ ∀ child ∈ children, child.IsSound := by
  simp only [IsSound, nodes, List.forall_mem_cons, nodesOf_eq, List.mem_flatMap]
  constructor
  · intro ⟨fits, inside⟩
    exact ⟨fits.head, fits.children.symm, fun child member node found =>
      inside node ⟨child, member, found⟩⟩
  · intro ⟨fits, holds, sound⟩
    exact ⟨⟨fits, holds.symm⟩, fun node ⟨child, member, found⟩ => sound child member node found⟩

/-! ## Creation -/

theorem new_isSound (kind : BlockKind) (id : BlockId) : (new kind id).IsSound := by
  have fits : Head.Fits ⟨id, kind, kind.definition.inputs⟩ := by
    have ascending := kind.definition.inputs_ascending
    refine ⟨ascending, (List.perm_ext_iff_of_nodup ?_ ?_).mpr kind.definition.mem_names_inputs⟩
    · exact ascending.imp ne_of_lt
    · exact Definition.names_nodup kind
  rw [new]
  split
  · next holds => exact isSound_container.mpr ⟨fits, holds, fun _ member => by cases member⟩
  · next leaf => exact isSound_plain.mpr ⟨fits, by simpa using leaf⟩

theorem IsSound.setInput? {block changed : Block} (sound : block.IsSound) {name : String}
    {value : InputValue} (set : block.setInput? name value = some changed) : changed.IsSound := by
  simp only [Block.setInput?, Option.ite_none_right_eq_some, Option.some.injEq] at set
  rcases set with ⟨_, rfl⟩
  have kept {head : Head} (fits : head.Fits) :
      Head.Fits { head with inputs := head.inputs.setValue name value } :=
    ⟨by rw [Inputs.IsAscending, Inputs.names_setValue]; exact fits.ascending,
      by rw [Inputs.names_setValue]; exact fits.names⟩
  cases block with
  | plain head =>
      rcases isSound_plain.mp sound with ⟨fits, leaf⟩
      exact isSound_plain.mpr ⟨kept fits, leaf⟩
  | container head children =>
      rcases isSound_container.mp sound with ⟨fits, holds, inside⟩
      exact isSound_container.mpr ⟨kept fits, holds, inside⟩

theorem IsSound.setInputs {block : Block} (sound : block.IsSound)
    (values : List (String × InputValue)) : (block.setInputs values).IsSound := by
  induction values generalizing block with
  | nil => exact sound
  | cons entry rest induction =>
      refine induction (?_ : ((block.setInput? entry.1 entry.2).getD block).IsSound)
      cases set : block.setInput? entry.1 entry.2 with
      | none => exact sound
      | some changed => exact sound.setInput? set

theorem withInputs_isSound (kind : BlockKind) (values : List (String × InputValue))
    (ids : BlockIds) : (withInputs kind values ids).1.IsSound :=
  (new_isSound kind _).setInputs values

theorem create_isSound {name : String} {values : List (String × InputValue)} {ids : BlockIds}
    {made : Block × BlockIds} (created : (create name values ids).1 = .ok made) :
    made.1.IsSound := by
  rw [create] at created
  split at created
  · next kind _ =>
      cases created
      exact withInputs_isSound kind values ids
  · cases created

/-! ## Children -/

theorem IsSound.push {block child pushed : Block} (sound : block.IsSound)
    (childSound : child.IsSound) (done : block.push child = .ok pushed) : pushed.IsSound := by
  cases block with
  | plain head => cases done
  | container head children =>
      cases done
      rcases isSound_container.mp sound with ⟨fits, holds, inside⟩
      exact isSound_container.mpr ⟨fits, holds, List.forall_mem_append.mpr
        ⟨inside, List.forall_mem_singleton.mpr childSound⟩⟩

theorem IsSound.remove {block : Block} (sound : block.IsSound) {index : Nat}
    {taken : Block × Block} (done : block.remove index = .ok taken) :
    taken.1.IsSound ∧ taken.2.IsSound := by
  cases block with
  | plain head => cases done
  | container head children =>
      rcases isSound_container.mp sound with ⟨fits, holds, inside⟩
      simp only [Block.remove] at done
      split at done
      · next child found =>
          cases done
          refine ⟨inside child (List.mem_of_getElem? found), ?_⟩
          exact isSound_container.mpr ⟨fits, holds, fun other member =>
            inside other (List.mem_of_mem_eraseIdx member)⟩
      · cases done

theorem IsSound.child {block child : Block} (sound : block.IsSound) {children : List Block}
    (has : block.children? = some children) (member : child ∈ children) : child.IsSound := by
  cases block with
  | plain head => cases has
  | container head inner =>
      cases has
      exact (isSound_container.mp sound).2.2 child member

mutual

theorem IsSound.duplicate {block : Block} (sound : block.IsSound) (ids : BlockIds) :
    (duplicate ids block).1.IsSound := by
  cases block with
  | plain head =>
      rcases isSound_plain.mp sound with ⟨fits, leaf⟩
      exact isSound_plain.mpr ⟨⟨fits.ascending, fits.names⟩, leaf⟩
  | container head children =>
      rcases isSound_container.mp sound with ⟨fits, holds, inside⟩
      exact isSound_container.mpr
        ⟨⟨fits.ascending, fits.names⟩, holds, duplicates_isSound inside ids.take.2⟩

theorem duplicates_isSound {blocks : List Block} (sound : ∀ block ∈ blocks, block.IsSound)
    (ids : BlockIds) : ∀ copy ∈ (duplicates ids blocks).1, copy.IsSound := by
  cases blocks with
  | nil => intro copy member; cases member
  | cons block rest =>
      rcases List.forall_mem_cons.mp sound with ⟨first, others⟩
      exact List.forall_mem_cons.mpr
        ⟨first.duplicate ids, duplicates_isSound others (Block.duplicate ids block).2⟩

end

/-! ## Assembly and reading -/

theorem ofParts_isSound {head : Head} {children? : Option (List Block)} {block : Block}
    (ascending : head.inputs.IsAscending)
    (inside : ∀ children, children? = some children → ∀ child ∈ children, child.IsSound)
    (made : ofParts head children? = .ok block) : block.IsSound := by
  unfold ofParts at made
  split at made
  · cases made
  · next matched =>
      simp only [Head.matchesSchema, Bool.not_eq_true', Bool.not_eq_false, Bool.and_eq_true,
        beq_iff_eq, List.all_eq_true] at matched
      have fits : head.Fits := by
        refine ⟨ascending, Inputs.names_perm (Definition.names_nodup head.kind) ?_ matched.2⟩
        rw [matched.1, Definition.names, List.length_map]
      split at made
      · next holds =>
          cases made
          refine isSound_container.mpr ⟨fits, holds, ?_⟩
          cases children? with
          | none => intro child member; cases member
          | some children => exact inside children rfl
      · next leaf =>
          cases children? with
          | none =>
              cases made
              exact isSound_plain.mpr ⟨fits, by simpa using leaf⟩
          | some children => cases made

end Block

end SpriteScript
