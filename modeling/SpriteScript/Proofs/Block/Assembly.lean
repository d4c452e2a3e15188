import SpriteScript.Proofs.Block.RoundTrip

namespace SpriteScript.Block

/-! Trees of blocks that come from elsewhere, put together from the leaves up. A tree is
accepted exactly if all of it may be as it is, and then nothing of it is changed; else the
first block that may not, children before their parent, decides what is wrong. -/

/-! ## Blocks that are not checked -/

def Head.HasSchema (head : Head) : Prop :=
  ∀ name, name ∈ head.inputs.names ↔ name ∈ head.kind.definition.names

/-- Counting the inputs and looking up the names of the schema tells whether they are the
same. -/
theorem Head.matchesSchema_iff {head : Head} (ascending : head.inputs.IsAscending) :
    head.matchesSchema = true ↔ head.HasSchema := by
  have each : head.inputs.names.Nodup := ascending.imp ne_of_lt
  have same := List.perm_ext_iff_of_nodup each (Definition.names_nodup head.kind)
  constructor
  · intro matched
    simp only [matchesSchema, Bool.and_eq_true, beq_iff_eq, List.all_eq_true] at matched
    have count : head.inputs.length = head.kind.definition.names.length := by
      rw [matched.1, Definition.names, List.length_map]
    exact same.mp (Inputs.names_perm (Definition.names_nodup head.kind) count matched.2)
  · intro schema
    exact Fits.matchesSchema ⟨ascending, same.mpr schema⟩

structure IsAdmissible (block : Block) : Prop where
  schema : block.head.HasSchema
  children : block.children?.isSome = true → block.kind.isContainer = true

/-- What is wrong with a block that is not admissible. The schema comes first. -/
inductive Offends (block : Block) : Fault → Prop
  | schema (foreign : ¬block.head.HasSchema) : Offends block (.schemaMismatch block.id block.kind)
  | children (schema : block.head.HasSchema) (given : block.children?.isSome = true)
      (leaf : block.kind.isContainer = false) : Offends block (.notContainer block.id)

theorem Offends.not_isAdmissible {block : Block} {fault : Fault} (offends : block.Offends fault) :
    ¬block.IsAdmissible := by
  intro admissible
  cases offends with
  | schema foreign => exact foreign admissible.schema
  | children schema given leaf =>
      rw [admissible.children given] at leaf
      cases leaf

mutual

def postorder : Block → List Block
  | .plain head => [.plain head]
  | .container head children => postorderOf children ++ [.container head children]

def postorderOf : List Block → List Block
  | [] => []
  | block :: rest => block.postorder ++ postorderOf rest

end

mutual

/-- A tree with the lists of children that its containers leave out. -/
def complete : Block → Block
  | .plain head => if head.kind.isContainer then .container head [] else .plain head
  | .container head children => .container head (completeAll children)

def completeAll : List Block → List Block
  | [] => []
  | block :: rest => block.complete :: completeAll rest

end

/-! ## Assembly -/

mutual

def assemble : Block → Except Fault Block
  | .plain head => ofParts head none
  | .container head children => do
      let inside ← assembleAll children
      ofParts head (some inside)

def assembleAll : List Block → Except Fault (List Block)
  | [] => .ok []
  | block :: rest => do
      let first ← block.assemble
      let others ← assembleAll rest
      return first :: others

end

/-- What comes of blocks that are checked one after the other: a value if all of them are
admissible, and else the fault of the first one that is not. -/
inductive Checked {α : Type} (value : α) : List Block → Except Fault α → Prop
  | accepted (blocks : List Block) (fit : ∀ block ∈ blocks, block.IsAdmissible) :
      Checked value blocks (.ok value)
  | refused (before : List Block) (block : Block) (after : List Block) (fault : Fault)
      (fit : ∀ other ∈ before, other.IsAdmissible) (offends : block.Offends fault) :
      Checked value (before ++ block :: after) (.error fault)

namespace Checked

variable {α β : Type} {value : α} {blocks : List Block} {made : Except Fault α}

theorem bind {last : β} {others : List Block} {next : α → Except Fault β}
    (checked : Checked value blocks made) (later : Checked last others (next value)) :
    Checked last (blocks ++ others) (made >>= next) := by
  cases checked with
  | accepted _ fit =>
      have continued : Except.ok value >>= next = next value := rfl
      rw [continued]
      generalize next value = result at later
      cases later with
      | accepted _ laterFit => exact .accepted _ (List.forall_mem_append.mpr ⟨fit, laterFit⟩)
      | refused before block after fault laterFit offends =>
          rw [← List.append_assoc]
          exact .refused _ block after fault (List.forall_mem_append.mpr ⟨fit, laterFit⟩) offends
  | refused before block after fault fit offends =>
      rw [List.append_assoc, List.cons_append]
      exact .refused before block _ fault fit offends

theorem map (checked : Checked value blocks made) (change : α → β) :
    Checked (change value) blocks (made >>= fun value => .ok (change value)) := by
  cases checked with
  | accepted _ fit => exact .accepted blocks fit
  | refused before block after fault fit offends =>
      exact .refused before block after fault fit offends

theorem exists_ok_iff (checked : Checked value blocks made) :
    (∃ result, made = .ok result) ↔ ∀ block ∈ blocks, block.IsAdmissible := by
  cases checked with
  | accepted _ fit => exact iff_of_true ⟨value, rfl⟩ fit
  | refused before block after fault fit offends =>
      refine iff_of_false nofun fun all => ?_
      exact offends.not_isAdmissible (all block (List.mem_append_right _ List.mem_cons_self))

theorem eq_of_ok {result : α} (checked : Checked value blocks (.ok result)) : result = value := by
  cases checked
  rfl

theorem first_of_error {fault : Fault} (checked : Checked value blocks (.error fault)) :
    ∃ before block after, blocks = before ++ block :: after ∧
      (∀ other ∈ before, other.IsAdmissible) ∧ block.Offends fault := by
  cases checked with
  | refused before block after _ fit offends => exact ⟨before, block, after, rfl, fit, offends⟩

end Checked

/-! ### One block -/

section

variable {head : Head} (ascending : head.inputs.IsAscending)
include ascending

theorem ofParts_of_foreign (foreign : ¬head.HasSchema) (children? : Option (List Block)) :
    ofParts head children? = .error (.schemaMismatch head.id head.kind) := by
  have mismatch : head.matchesSchema = false :=
    Bool.eq_false_iff.mpr fun matched => foreign ((Head.matchesSchema_iff ascending).mp matched)
  simp [ofParts, mismatch]

theorem ofParts_of_schema (schema : head.HasSchema) (children? : Option (List Block)) :
    ofParts head children? =
      if head.kind.isContainer then .ok (.container head (children?.getD []))
      else
        match children? with
        | none => .ok (.plain head)
        | some _ => .error (.notContainer head.id) := by
  rw [ofParts.eq_def, (Head.matchesSchema_iff ascending).mpr schema]
  rfl

theorem ofParts_none_checked :
    Checked (complete (.plain head)) [.plain head] (ofParts head none) := by
  by_cases schema : head.HasSchema
  · have made : ofParts head none = .ok (complete (.plain head)) := by
      rw [ofParts_of_schema ascending schema, complete]
      split <;> rfl
    rw [made]
    exact .accepted _ (List.forall_mem_singleton.mpr ⟨schema, nofun⟩)
  · rw [ofParts_of_foreign ascending schema]
    exact .refused [] _ [] _ (List.forall_mem_nil _) (.schema schema)

theorem ofParts_some_checked (children inside : List Block) :
    Checked (container head inside) [.container head children] (ofParts head (some inside)) := by
  by_cases schema : head.HasSchema
  · rw [ofParts_of_schema ascending schema]
    cases holds : head.kind.isContainer with
    | true => exact .accepted _ (List.forall_mem_singleton.mpr ⟨schema, fun _ => holds⟩)
    | false => exact .refused [] _ [] _ (List.forall_mem_nil _) (.children schema rfl holds)
  · rw [ofParts_of_foreign ascending schema]
    exact .refused [] _ [] _ (List.forall_mem_nil _) (.schema schema)

end

/-! ### Whole trees -/

def AreOrdered (blocks : List Block) : Prop := ∀ block ∈ blocks, block.inputs.IsAscending

mutual

theorem assemble_checked {tree : Block} (ordered : AreOrdered tree.postorder) :
    Checked tree.complete tree.postorder tree.assemble := by
  cases tree with
  | plain head => exact ofParts_none_checked (ordered (plain head) List.mem_cons_self)
  | container head children =>
      rcases List.forall_mem_append.mp ordered with ⟨inside, own⟩
      have ascending : head.inputs.IsAscending := own (container head children) List.mem_cons_self
      exact (assembleAll_checked inside).bind (ofParts_some_checked ascending children _)

theorem assembleAll_checked {trees : List Block} (ordered : AreOrdered (postorderOf trees)) :
    Checked (completeAll trees) (postorderOf trees) (assembleAll trees) := by
  cases trees with
  | nil => exact .accepted [] (List.forall_mem_nil _)
  | cons tree rest =>
      rcases List.forall_mem_append.mp ordered with ⟨first, others⟩
      exact (assemble_checked first).bind ((assembleAll_checked others).map (tree.complete :: ·))

end

/-! ## Reading -/

def reading {α : Type} (made : Except Fault α) : Reading Fault α := made.mapError .rejected

theorem reading_bind {α β : Type} (made : Except Fault α) (next : α → Except Fault β) :
    reading (made >>= next) = reading made >>= fun value => reading (next value) := by
  cases made <;> rfl

theorem Draft.finish_eq (head : Head) (children : Option (Option (List Block))) :
    finish ⟨some head.id, some head.kind, some head.inputs, children⟩ =
      reading (ofParts head (children.getD none)) := by
  rw [finish]
  cases ofParts head (children.getD none) <;> rfl

def IsWritten (block : Block) : Prop :=
  ∀ number ∈ block.numbers, number.isFinite ∧ Json.ReadsBack number

instance (block : Block) : Decidable block.IsWritten :=
  inferInstanceAs (Decidable (∀ number ∈ block.numbers, _))

theorem isWritten_container {head : Head} {children : List Block} :
    (container head children).IsWritten ↔
      (plain head).IsWritten ∧ ∀ child ∈ children, child.IsWritten := by
  simp only [IsWritten, numbers_container, numbers_plain, List.forall_mem_append,
    List.mem_flatMap]
  refine and_congr_right fun _ => ⟨fun all child member number inside => ?_, ?_⟩
  · exact all number ⟨child, member, inside⟩
  · rintro all number ⟨child, member, inside⟩
    exact all child member number inside

theorem IsWritten.read_inputs {head : Head} (written : (plain head).IsWritten)
    (ascending : head.inputs.IsAscending) (depth : Nat) :
    Inputs.read (depth + 2) head.inputs.toJson = .ok head.inputs := by
  rw [IsWritten, numbers_plain] at written
  have same : head.inputs.reread = head.inputs := by
    rw [Inputs.reread_eq_iff]
    exact fun number member =>
      (Json.reread_eq_iff (written number member).1).mpr (written number member).2
  have finite : head.inputs.numbers.all Float.isFinite :=
    List.all_eq_true.mpr fun number member => (written number member).1
  have entries : head.inputs.toJson =
      .object (head.inputs.map fun entry => (some entry.1, entry.2.toJson)) := by
    rw [Inputs.toJson, Json.record, List.map_map]
    rfl
  have all : Inputs.IsAscending ([] ++ head.inputs) := ascending
  have read := Inputs.readEntries_toJson all depth
  rw [same, Reading.provided, if_pos finite] at read
  rw [entries]
  exact read

mutual

theorem read_tree {tree : Block} (ordered : AreOrdered tree.postorder) (written : tree.IsWritten)
    {limit : Nat} (within : 2 * tree.depth < limit) :
    read limit tree.toJson = reading tree.assemble := by
  have positive := tree.depth_pos
  rcases Nat.exists_eq_add_of_le (show 3 ≤ limit by omega) with ⟨spare, rfl⟩
  rw [Nat.add_comm]
  cases tree with
  | plain head =>
      have entries : (plain head).toJson =
          .object [(some "id", .natural head.id.number.toNat),
            (some "kind", .string head.kind.name), (some "inputs", head.inputs.toJson)] := rfl
      have inputs := written.read_inputs (ordered (plain head) List.mem_cons_self) spare
      rw [entries, read, Field.fillAll, head.fill_entries inputs]
      exact Draft.finish_eq head none
  | container head children =>
      have entries : (container head children).toJson =
          .object [(some "id", .natural head.id.number.toNat),
            (some "kind", .string head.kind.name), (some "inputs", head.inputs.toJson),
            (some "children", .array (toJsons children))] := rfl
      rcases List.forall_mem_append.mp ordered with ⟨inside, own⟩
      rcases isWritten_container.mp written with ⟨headWritten, childrenWritten⟩
      have inputs := headWritten.read_inputs
        (own (container head children) List.mem_cons_self) spare
      have less : 2 * depths children < spare + 1 := by
        rw [depth] at within
        omega
      have list := list_trees inside childrenWritten (depths_lt.mp less).2
      have later : Field.fillEntries (Draft.fields (spare + 2) (read (spare + 1)))
          ⟨some head.id, some head.kind, some head.inputs, none⟩
          [(some "children", .array (toJsons children))] =
            reading (assembleAll children) >>= fun inside =>
              .ok ⟨some head.id, some head.kind, some head.inputs, some (some inside)⟩ := by
        rw [Field.fillEntries_known rfl rfl, ← list]
        exact bind_assoc (Reading.list (read (spare + 1)) (toJsons children)) _ _
      rw [entries, read, Field.fillAll, head.fill_entries inputs, assemble, reading_bind,
        bind_of_ok rfl, later, bind_assoc]
      exact bind_congr fun inside => Draft.finish_eq head (some (some inside))

theorem list_trees {trees : List Block} (ordered : AreOrdered (postorderOf trees))
    (written : ∀ tree ∈ trees, tree.IsWritten) {limit : Nat}
    (within : ∀ tree ∈ trees, 2 * tree.depth < limit) :
    Reading.list (read limit) (toJsons trees) = reading (assembleAll trees) := by
  cases trees with
  | nil => rfl
  | cons tree rest =>
      rcases List.forall_mem_append.mp ordered with ⟨firstOrdered, otherOrdered⟩
      rcases List.forall_mem_cons.mp written with ⟨firstWritten, otherWritten⟩
      rcases List.forall_mem_cons.mp within with ⟨firstWithin, otherWithin⟩
      rw [toJsons, Reading.list, read_tree firstOrdered firstWritten firstWithin,
        list_trees otherOrdered otherWritten otherWithin, assembleAll, reading_bind]
      refine bind_congr fun first => ?_
      rw [reading_bind]
      rfl

end

/-- A tree whose inputs are in order is accepted exactly if each block of it has the inputs of
its schema and has children only as a container. Then it is left as it is, but that containers
without a list of children are given an empty one. Else the fault is that of the first block
that offends, children before their parent, and a foreign schema comes before children. A text
of the tree is read in the same way. -/
theorem assemble_checks_postorder {tree : Block} (ordered : AreOrdered tree.postorder) :
    ((∃ block, tree.assemble = .ok block) ↔ ∀ node ∈ tree.postorder, node.IsAdmissible) ∧
      (∀ block, tree.assemble = .ok block → block = tree.complete) ∧
      (∀ fault, tree.assemble = .error fault → ∃ before node after,
        tree.postorder = before ++ node :: after ∧ (∀ other ∈ before, other.IsAdmissible) ∧
          node.Offends fault) ∧
      (tree.IsWritten → tree.depth ≤ 63 → ofText tree.toText = reading tree.assemble) := by
  have checked := assemble_checked ordered
  refine ⟨checked.exists_ok_iff, fun block made => (made ▸ checked).eq_of_ok,
    fun fault made => (made ▸ checked).first_of_error, ?_⟩
  · intro written shallow
    have within : 2 * tree.depth < Json.depthLimit := by
      rw [Json.depthLimit]
      omega
    rw [ofText, toText, Reading.text_of_ended (Document.ofString_toText tree.toJson_isProper)]
    exact read_tree ordered written within

/-- A block with children that is no container, around one that has another input besides: the
inner one decides, and its inputs do. -/
theorem assemble_checks_postorder_nested :
    let move := Block.plain ⟨⟨2⟩, .moveSteps, [("steps", ⟨.number, .number 10.0⟩)]⟩
    let inner := Block.container ⟨⟨4⟩, .moveSteps, [("speed", ⟨.number, .number 2.0⟩)]⟩ []
    let outer := Block.container ⟨⟨3⟩, .turnDegrees, [("degrees", ⟨.text, .text "far"⟩)]⟩ [inner]
    let tree := Block.container ⟨⟨1⟩, .repeatTimes, [("times", ⟨.number, .number 3.0⟩)]⟩
      [move, outer]
    AreOrdered tree.postorder ∧ tree.assemble = .error (.schemaMismatch ⟨4⟩ .moveSteps) ∧
      ofText tree.toText = .error (.rejected (.schemaMismatch ⟨4⟩ .moveSteps)) ∧
      ¬∀ node ∈ tree.postorder, node.IsAdmissible := by
  intro move inner outer tree
  have ordered : AreOrdered tree.postorder := by
    simp [AreOrdered, tree, outer, inner, move, postorder, postorderOf, inputs, head,
      Inputs.IsAscending, Inputs.names]
  have refused : tree.assemble = .error (.schemaMismatch ⟨4⟩ .moveSteps) := rfl
  have checks := assemble_checks_postorder ordered
  refine ⟨ordered, refused, ?_, fun all => ?_⟩
  · rw [checks.2.2.2 (by decide +kernel) (by decide), refused]
    rfl
  · rcases checks.1.mpr all with ⟨block, made⟩
    rw [refused] at made
    cases made

end SpriteScript.Block
