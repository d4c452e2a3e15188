import SpriteScript.Proofs.Block.Built
import SpriteScript.Proofs.Json.Quantity
import SpriteScript.Proofs.Json.ReadBack

namespace SpriteScript

/-! Blocks written as text and read again. A number that is not finite is written as null, and
every level of a tree takes two of the containers that may be open at one time: what has
neither is read as it was, but for the numbers that are read as a neighbour, and everything else
is refused. -/

/-! ## Numbers and depth -/

def InputValue.numbers : InputValue → List Float
  | .number value => [value]
  | .text _ => []

def Inputs.numbers (inputs : Inputs) : List Float :=
  inputs.flatMap fun entry => entry.2.value.numbers

namespace Block

def numbers (block : Block) : List Float := block.nodes.flatMap fun node => node.inputs.numbers

theorem numbers_plain (head : Head) : (plain head).numbers = head.inputs.numbers :=
  List.append_nil _

theorem numbers_container (head : Head) (children : List Block) :
    (container head children).numbers = head.inputs.numbers ++ children.flatMap numbers := by
  rw [numbers, nodes, List.flatMap_cons, nodesOf_eq, List.flatMap_assoc]
  rfl

mutual

/-- The number of blocks from the top of a tree down to its deepest block. -/
def depth : Block → Nat
  | .plain _ => 1
  | .container _ children => 1 + depths children

def depths : List Block → Nat
  | [] => 0
  | block :: rest => max block.depth (depths rest)

end

theorem depth_pos (block : Block) : 0 < block.depth := by
  cases block with
  | plain head => exact Nat.one_pos
  | container head children =>
      rw [depth]
      omega

theorem depths_lt {blocks : List Block} {limit : Nat} :
    2 * depths blocks < limit ↔ 0 < limit ∧ ∀ block ∈ blocks, 2 * block.depth < limit := by
  induction blocks with
  | nil => simp [depths]
  | cons block rest induction =>
      rw [depths, List.forall_mem_cons]
      constructor
      · intro less
        have later := induction.mp (by omega)
        exact ⟨later.1, by omega, later.2⟩
      · intro ⟨positive, first, later⟩
        have less := induction.mpr ⟨positive, later⟩
        omega

end Block

/-! ## Numbers read again -/

def InputValue.reread : InputValue → InputValue
  | .number value => .number (Json.reread value)
  | .text content => .text content

def Input.reread (input : Input) : Input := { input with value := input.value.reread }

def Inputs.reread (inputs : Inputs) : Inputs := inputs.map fun entry => (entry.1, entry.2.reread)

theorem Inputs.names_reread (inputs : Inputs) : inputs.reread.names = inputs.names :=
  List.map_map

theorem InputValue.reread_eq_iff (value : InputValue) :
    value.reread = value ↔ ∀ number ∈ value.numbers, Json.reread number = number := by
  cases value with
  | number value => rw [reread, number.injEq, numbers, List.forall_mem_singleton]
  | text content => exact iff_of_true rfl (List.forall_mem_nil _)

theorem Inputs.reread_eq_iff (inputs : Inputs) :
    inputs.reread = inputs ↔ ∀ number ∈ inputs.numbers, Json.reread number = number := by
  induction inputs with
  | nil => exact iff_of_true rfl (List.forall_mem_nil _)
  | cons entry rest induction =>
      rcases entry with ⟨name, valueType, value⟩
      rw [numbers, List.flatMap_cons, List.forall_mem_append, ← InputValue.reread_eq_iff, ← numbers,
        ← induction, reread, List.map_cons, List.cons.injEq, ← reread]
      simp [Input.reread]

namespace Block

def Head.reread (head : Head) : Head := { head with inputs := head.inputs.reread }

mutual

/-- What is read of a block from its own text: the same tree with each number read again. -/
def reread : Block → Block
  | .plain head => .plain head.reread
  | .container head children => .container head.reread (rereads children)

def rereads : List Block → List Block
  | [] => []
  | block :: rest => block.reread :: rereads rest

end

theorem rereads_eq (blocks : List Block) : rereads blocks = blocks.map reread := by
  induction blocks with
  | nil => rfl
  | cons block rest induction => rw [rereads, List.map_cons, induction]

theorem Head.reread_eq_iff (head : Head) :
    head.reread = head ↔ ∀ number ∈ head.inputs.numbers, Json.reread number = number := by
  rw [← Inputs.reread_eq_iff]
  rcases head with ⟨id, kind, inputs⟩
  simp [Head.reread]

mutual

theorem reread_eq_iff_numbers (block : Block) :
    block.reread = block ↔ ∀ number ∈ block.numbers, Json.reread number = number := by
  cases block with
  | plain head => rw [reread, plain.injEq, numbers_plain, Head.reread_eq_iff]
  | container head children =>
      rw [reread, container.injEq, numbers_container, List.forall_mem_append, Head.reread_eq_iff,
        rereads_eq_iff_numbers children]

theorem rereads_eq_iff_numbers (blocks : List Block) :
    rereads blocks = blocks ↔
      ∀ number ∈ blocks.flatMap numbers, Json.reread number = number := by
  cases blocks with
  | nil => exact iff_of_true rfl (List.forall_mem_nil _)
  | cons block rest =>
      rw [rereads, List.cons.injEq, List.flatMap_cons, List.forall_mem_append,
        reread_eq_iff_numbers block, rereads_eq_iff_numbers rest]

end

theorem reread_eq_iff {block : Block} (finite : block.numbers.all Float.isFinite) :
    block.reread = block ↔ ∀ number ∈ block.numbers, Json.ReadsBack number := by
  rw [reread_eq_iff_numbers]
  exact forall₂_congr fun number member =>
    Json.reread_eq_iff (List.all_eq_true.mp finite number member)

theorem reread_of_readBack {block : Block} (readBack : Json.ReadBack block.numbers)
    (finite : block.numbers.all Float.isFinite) : block.reread = block :=
  (reread_eq_iff finite).mpr fun number member =>
    readBack number member (List.all_eq_true.mp finite number member)

end Block

/-! ## Inputs -/

theorem ValueType.ofName?_name (valueType : ValueType) :
    ofName? valueType.name = some valueType := by
  cases valueType <;> decide +kernel

/-- A number that is not finite becomes null, which is a tree but no value. -/
theorem InputValue.ofJson?_toJson (value : InputValue) :
    Reading.ofOption (ofJson? value.toJson) =
      (Reading.provided (value.numbers.all Float.isFinite) value.reread :
        Reading Fault InputValue) := by
  cases value with
  | text content => rfl
  | number value =>
      rw [toJson]
      cases finite : value.isFinite with
      | false =>
          rw [Json.double_of_infinite finite]
          simp [Reading.provided, numbers, finite, ofJson?, Reading.ofOption]
      | true =>
          have read := Json.asDouble?_double finite
          rcases Json.double_of_finite finite with ⟨numeral, printed⟩
          rw [printed] at read ⊢
          simp [Reading.provided, numbers, finite, ofJson?, read, Reading.ofOption, reread]

theorem Input.read_toJson (input : Input) (depth : Nat) :
    read (depth + 1) input.toJson =
      Reading.provided (input.value.numbers.all Float.isFinite) input.reread := by
  have entries : input.toJson = .object [(some "value_type", .string input.valueType.name),
      (some "value", input.value.toJson)] := rfl
  have named : Reading.ofOption ((Json.asName? depth (.string input.valueType.name)).bind
      ValueType.ofName?) = (.ok input.valueType : Reading Fault ValueType) := by
    have name : Json.asName? depth (.string input.valueType.name) = some input.valueType.name := by
      cases depth <;> rfl
    rw [name, Option.bind_some, ValueType.ofName?_name]
    rfl
  have filled : Field.fillAll (Draft.fields depth) (depth + 1) ⟨none, none⟩ input.toJson =
      Reading.provided (input.value.numbers.all Float.isFinite)
        ⟨some input.valueType, some input.value.reread⟩ := by
    rw [entries, Field.fillAll, Field.fillEntries_known rfl rfl]
    refine Reading.bind_ok (Reading.bind_ok named rfl) ?_
    rw [Field.fillEntries_known rfl rfl]
    exact Reading.bind_provided_ok
      (Reading.bind_provided_ok input.value.ofJson?_toJson rfl) rfl
  exact Reading.bind_provided_ok filled rfl

theorem InputValue.ofJson?_isFinite {json : Json} {value : InputValue}
    (read : ofJson? json = some value) : value.numbers.all Float.isFinite := by
  rw [ofJson?.eq_def] at read
  split at read
  · rcases Option.map_eq_some_iff.mp read with ⟨number, numberRead, same⟩
    cases same
    simp [numbers, Json.asDouble?_isFinite numberRead]
  · cases read
    rfl
  · cases read

theorem Input.read_isFinite {depth : Nat} {json : Json} {input : Input}
    (done : read depth json = .ok input) : input.value.numbers.all Float.isFinite := by
  rcases ok_of_bind done with ⟨draft, filled, done⟩
  have finite : ∀ value, draft.value = some value → value.numbers.all Float.isFinite := by
    refine Field.fillAll_keeps
      (fun draft => ∀ value, draft.value = some value → value.numbers.all Float.isFinite)
      ?_ (fun value same => by cases same) filled
    intro field known draft tree next kept done
    simp only [Draft.fields, List.mem_cons, List.not_mem_nil, or_false] at known
    rcases known with rfl | rfl
    · rcases ok_of_bind done with ⟨valueType, _, done⟩
      cases done
      exact kept
    · rcases ok_of_bind done with ⟨value, read, done⟩
      cases done
      intro value same
      cases same
      exact InputValue.ofJson?_isFinite (Reading.ofOption_eq_ok.mp read)
  split at done
  · next valueType value =>
      cases done
      exact finite value rfl
  · cases done

namespace Inputs

theorem readEntries_isFinite {depth : Nat} {inputs result : Inputs}
    {entries : List (Option String × Json)} (finite : inputs.numbers.all Float.isFinite)
    (done : readEntries depth inputs entries = .ok result) :
    result.numbers.all Float.isFinite := by
  induction entries generalizing inputs with
  | nil =>
      cases done
      exact finite
  | cons entry rest induction =>
      rcases entry with ⟨_ | name, tree⟩
      · cases done
      · rcases ok_of_bind done with ⟨input, read, done⟩
        refine induction ?_ done
        rw [numbers, List.all_flatMap, List.all_eq_true] at finite ⊢
        intro entry member
        rcases mem_insert member with rfl | member
        · exact Input.read_isFinite read
        · exact finite entry member

theorem read_isFinite {depth : Nat} {json : Json} {inputs : Inputs}
    (done : read depth json = .ok inputs) : inputs.numbers.all Float.isFinite := by
  rcases ok_of_bind done with ⟨entries, _, done⟩
  exact readEntries_isFinite rfl done

theorem readEntries_toJson {done inputs : Inputs} (ascending : IsAscending (done ++ inputs))
    (depth : Nat) :
    readEntries (depth + 1) done
        (inputs.map fun (name, input) => (some name, input.toJson)) =
      Reading.provided (inputs.numbers.all Float.isFinite) (done ++ inputs.reread) := by
  induction inputs generalizing done with
  | nil =>
      have none : done ++ reread [] = done := List.append_nil done
      rw [none]
      rfl
  | cons entry rest induction =>
      rcases entry with ⟨name, input⟩
      have last : ∀ other ∈ done.names, other < name := by
        rw [IsAscending, names, List.map_append, List.pairwise_append] at ascending
        exact fun other member => ascending.2.2 other member name List.mem_cons_self
      -- The names are the same, whatever is read of the input.
      have next : IsAscending ((done ++ [(name, input.reread)]) ++ rest) := by
        simpa [IsAscending, names] using ascending
      refine (Reading.bind_provided (input.read_toJson depth) ?_).trans
        (Reading.provided_of_iff (?_ : _ ∧ (numbers rest).all Float.isFinite ↔ _) _)
      · rw [insert_of_last last]
        have later := induction next
        rw [List.append_assoc, List.singleton_append] at later
        exact later
      · simp [numbers]

theorem read_toJson {inputs : Inputs} (ascending : inputs.IsAscending) (nonempty : inputs ≠ [])
    (depth : Nat) :
    read (depth + 1) inputs.toJson =
      Reading.provided (inputs.numbers.all Float.isFinite ∧ 0 < depth) inputs.reread := by
  have entries : inputs.toJson =
      .object (inputs.map fun (name, input) => (some name, input.toJson)) := by
    rw [toJson, Json.record, List.map_map]
    rfl
  rw [entries]
  cases depth with
  | zero =>
      cases inputs with
      | nil => exact absurd rfl nonempty
      | cons entry rest =>
          rw [Reading.provided, if_neg (by simp)]
          rfl
  | succ depth =>
      have all : IsAscending ([] ++ inputs) := ascending
      exact (readEntries_toJson all depth).trans
        (Reading.provided_of_iff (by simp) inputs.reread)

theorem read_depth {limit : Nat} {json : Json} {inputs : Inputs}
    (done : read (limit + 1) json = .ok inputs) (nonempty : inputs ≠ []) : 0 < limit := by
  rcases ok_of_bind done with ⟨entries, _, done⟩
  rcases Nat.eq_zero_or_pos limit with rfl | positive
  · cases entries with
    | nil =>
        cases done
        exact absurd rfl nonempty
    | cons entry rest => rcases entry with ⟨_ | name, tree⟩ <;> cases done
  · exact positive

end Inputs

theorem Input.toJson_isProper (input : Input) : input.toJson.IsProper := by
  have value : input.value.toJson.IsProper := by
    cases input.value with
    | number number => exact Json.double_isProper number
    | text content => trivial
  exact ⟨trivial, value, trivial⟩

theorem Inputs.toJson_isProper (inputs : Inputs) : inputs.toJson.IsProper :=
  Json.isProper_record.mpr (List.forall_mem_map.mpr fun entry _ => entry.2.toJson_isProper)

/-! ## Blocks -/

namespace Block

theorem Head.Fits.matchesSchema {head : Head} (fits : head.Fits) : head.matchesSchema := by
  have count : head.inputs.length = head.kind.definition.slots.length := by
    simpa [Inputs.names, Definition.names] using fits.names.length_eq
  have all : head.kind.definition.names.all head.inputs.has := by
    rw [List.all_eq_true]
    exact fun name member => Inputs.has_iff.mpr (fits.names.mem_iff.mpr member)
  rw [Head.matchesSchema, all, count]
  simp

theorem Head.Fits.inputs_ne_nil {head : Head} (fits : head.Fits) : head.inputs ≠ [] := by
  intro empty
  have names := fits.names
  rw [empty] at names
  have none := names.nil_eq
  cases kind : head.kind <;> rw [kind] at none <;> cases none

theorem Head.fill_entries {head : Head} {depth : Nat} {reading : Reading Fault Inputs}
    (inputs : Inputs.read (depth + 1) head.inputs.toJson = reading)
    (rest : List (Option String × Json)) :
    Field.fillEntries (Draft.fields (depth + 1) (read depth)) .empty
        ((some "id", .natural head.id.number.toNat) :: (some "kind", .string head.kind.name) ::
          (some "inputs", head.inputs.toJson) :: rest) =
      reading >>= fun inputs => Field.fillEntries (Draft.fields (depth + 1) (read depth))
        ⟨some head.id, some head.kind, some inputs, none⟩ rest := by
  have id : Reading.ofOption ((Json.natural head.id.number.toNat).asNatural? UInt64.size) =
      (.ok head.id.number.toNat : Reading Fault Nat) := by
    rw [Json.asNatural?_natural (by decide) head.id.number.toNat_lt]
    rfl
  have same : BlockId.mk (.ofNat head.id.number.toNat) = head.id := by
    rw [UInt64.ofNat_toNat]
  have kind : Reading.ofOption ((Json.asName? (depth + 1) (.string head.kind.name)).bind
      BlockKind.ofName?) = (.ok head.kind : Reading Fault BlockKind) := by
    have name : Json.asName? (depth + 1) (.string head.kind.name) = some head.kind.name := rfl
    rw [name, Option.bind_some, BlockKind.ofName?_name]
    rfl
  rw [Field.fillEntries_known rfl rfl]
  refine Reading.bind_ok (Reading.bind_ok id rfl) ?_
  rw [same, Field.fillEntries_known rfl rfl]
  refine Reading.bind_ok (Reading.bind_ok kind rfl) ?_
  rw [Field.fillEntries_known rfl rfl, ← inputs]
  exact bind_assoc _ _ _

theorem Head.fill_toJson {head : Head} (fits : head.Fits) (depth : Nat)
    (rest : List (Option String × Json)) :
    Field.fillEntries (Draft.fields (depth + 1) (read depth)) .empty
        ((some "id", .natural head.id.number.toNat) :: (some "kind", .string head.kind.name) ::
          (some "inputs", head.inputs.toJson) :: rest) =
      Reading.provided (head.inputs.numbers.all Float.isFinite ∧ 0 < depth)
          ⟨some head.id, some head.kind, some head.inputs.reread, none⟩ >>= fun draft =>
        Field.fillEntries (Draft.fields (depth + 1) (read depth)) draft rest := by
  have inputs := Inputs.read_toJson fits.ascending fits.inputs_ne_nil depth
  rw [head.fill_entries inputs, Reading.provided, Reading.provided]
  split <;> rfl

theorem Head.Fits.reread {head : Head} (fits : head.Fits) : head.reread.Fits where
  ascending := by
    rw [Inputs.IsAscending, Head.reread, Inputs.names_reread]
    exact fits.ascending
  names := by
    rw [Head.reread, Inputs.names_reread]
    exact fits.names

theorem Head.Fits.finish_plain {head : Head} (fits : head.Fits)
    (leaf : head.kind.isContainer = false) :
    Draft.finish ⟨some head.id, some head.kind, some head.inputs, none⟩ = .ok (plain head) := by
  simp [Draft.finish, ofParts, fits.matchesSchema, leaf]

theorem Head.Fits.finish_container {head : Head} (fits : head.Fits)
    (holds : head.kind.isContainer = true) (children : List Block) :
    Draft.finish ⟨some head.id, some head.kind, some head.inputs, some (some children)⟩ =
      .ok (container head children) := by
  simp [Draft.finish, ofParts, fits.matchesSchema, holds]

theorem read_toJson_plain {head : Head} (sound : (plain head).IsSound) (depth : Nat) :
    read (depth + 2) (plain head).toJson =
      Reading.provided ((plain head).numbers.all Float.isFinite ∧ 0 < depth)
        (plain head).reread := by
  rcases isSound_plain.mp sound with ⟨fits, leaf⟩
  rw [numbers_plain]
  have entries : (plain head).toJson =
      .object [(some "id", .natural head.id.number.toNat), (some "kind", .string head.kind.name),
        (some "inputs", head.inputs.toJson)] := rfl
  have filled := head.fill_toJson fits depth []
  rw [entries]
  refine Reading.bind_provided_ok (filled.trans (Reading.bind_provided_ok rfl rfl)) ?_
  exact fits.reread.finish_plain leaf

theorem read_toJson_container {head : Head} {children : List Block}
    (sound : (container head children).IsSound) {depth : Nat}
    (inside : Reading.list (read depth) (toJsons children) =
      Reading.provided ((children.flatMap numbers).all Float.isFinite ∧
        ∀ child ∈ children, 2 * child.depth < depth) (rereads children)) :
    read (depth + 2) (container head children).toJson =
      Reading.provided ((container head children).numbers.all Float.isFinite ∧
        0 < depth ∧ ∀ child ∈ children, 2 * child.depth < depth)
        (container head children).reread := by
  rcases isSound_container.mp sound with ⟨fits, holds, _⟩
  rw [numbers_container]
  have entries : (container head children).toJson =
      .object [(some "id", .natural head.id.number.toNat), (some "kind", .string head.kind.name),
        (some "inputs", head.inputs.toJson), (some "children", .array (toJsons children))] := rfl
  have later : Field.fillEntries (Draft.fields (depth + 1) (read depth))
      ⟨some head.id, some head.kind, some head.inputs.reread, none⟩
      [(some "children", .array (toJsons children))] =
        Reading.provided ((children.flatMap numbers).all Float.isFinite ∧
          ∀ child ∈ children, 2 * child.depth < depth)
          ⟨some head.id, some head.kind, some head.inputs.reread,
            some (some (rereads children))⟩ := by
    rw [Field.fillEntries_known rfl rfl]
    exact Reading.bind_provided_ok
      (Reading.bind_ok rfl (Reading.bind_provided_ok inside rfl)) rfl
  have filled := head.fill_toJson fits depth [(some "children", .array (toJsons children))]
  have both := filled.trans (Reading.bind_provided rfl later)
  rw [entries]
  refine (Reading.bind_provided_ok both
    (fits.reread.finish_container holds (rereads children))).trans ?_
  apply Reading.provided_of_iff
  rw [List.all_append, Bool.and_eq_true]
  tauto

mutual

theorem read_toJson {block : Block} (sound : block.IsSound) (limit : Nat) :
    read limit block.toJson =
      Reading.provided (block.numbers.all Float.isFinite ∧ 2 * block.depth < limit)
        block.reread := by
  have positive := block.depth_pos
  match limit with
  | 0 =>
      rw [Reading.provided, if_neg (by omega)]
      rfl
  | 1 =>
      rw [Reading.provided, if_neg (by omega)]
      rfl
  | limit + 2 =>
      cases block with
      | plain head =>
          have level : 0 < limit ↔ 2 * (plain head).depth < limit + 2 := by
            rw [depth]
            omega
          exact (read_toJson_plain sound limit).trans
            (Reading.provided_of_iff (and_congr_right fun _ => level) _)
      | container head children =>
          have inside := list_toJsons (isSound_container.mp sound).2.2 limit
          have level : (0 < limit ∧ ∀ child ∈ children, 2 * child.depth < limit) ↔
              2 * (container head children).depth < limit + 2 := by
            rw [← depths_lt, depth]
            omega
          exact (read_toJson_container sound inside).trans
            (Reading.provided_of_iff (and_congr_right fun _ => level) _)

theorem list_toJsons {blocks : List Block} (sound : ∀ block ∈ blocks, block.IsSound)
    (limit : Nat) :
    Reading.list (read limit) (toJsons blocks) =
      Reading.provided ((blocks.flatMap numbers).all Float.isFinite ∧
        ∀ block ∈ blocks, 2 * block.depth < limit) (rereads blocks) := by
  cases blocks with
  | nil =>
      rw [Reading.provided, if_pos (by simp)]
      rfl
  | cons block rest =>
      have first := read_toJson (List.forall_mem_cons.mp sound).1 limit
      have later := list_toJsons (List.forall_mem_cons.mp sound).2 limit
      refine (Reading.bind_provided first ?_).trans
        (Reading.provided_of_iff (?_ : _ ∧ (rest.flatMap numbers).all Float.isFinite ∧
          (∀ block ∈ rest, 2 * block.depth < limit) ↔ _) _)
      · exact Reading.bind_provided_ok later rfl
      · rw [List.flatMap_cons, List.all_append, Bool.and_eq_true, List.forall_mem_cons]
        tauto

end

theorem Draft.finish_parts {draft : Draft} {block : Block} (done : draft.finish = .ok block) :
    draft.inputs = some block.inputs ∧ ∀ children, block.children? = some children →
      children = [] ∨ draft.children = some (some children) := by
  rcases draft with ⟨_ | id, _ | kind, _ | inputs, children⟩ <;> try cases done
  simp only [Draft.finish] at done
  split at done
  · next made =>
      cases done
      unfold ofParts at made
      split at made
      · cases made
      · split at made
        · cases made
          refine ⟨rfl, ?_⟩
          intro inner same
          cases same
          rcases children with _ | _ | children
          · exact .inl rfl
          · exact .inl rfl
          · exact .inr rfl
        · split at made
          · cases made
            exact ⟨rfl, fun inner same => by cases same⟩
          · cases made
  · cases done

theorem read_parts {limit : Nat} {json : Json} {block : Block} {inputsHold : Inputs → Prop}
    {childHolds : Block → Prop}
    (inputsRead : ∀ tree inputs, Inputs.read (limit + 1) tree = .ok inputs → inputsHold inputs)
    (childRead : ∀ tree child, read limit tree = .ok child → childHolds child)
    (done : read (limit + 2) json = .ok block) :
    inputsHold block.inputs ∧
      ∀ children, block.children? = some children → ∀ child ∈ children, childHolds child := by
  rcases ok_of_bind done with ⟨draft, filled, done⟩
  have holds := Draft.holds_of_read inputsRead childRead filled
  rcases Draft.finish_parts done with ⟨inputs, children⟩
  refine ⟨holds.inputs _ inputs, ?_⟩
  intro inner has
  rcases children inner has with rfl | filled
  · exact List.forall_mem_nil _
  · exact holds.children inner filled

/-- A block that is read is not deeper than the containers that may be open allow. -/
theorem read_depth {limit : Nat} {json : Json} {block : Block}
    (done : read limit json = .ok block) : 2 * block.depth < limit := by
  induction limit using Nat.twoStepInduction generalizing json block with
  | zero => cases done
  | one => cases done
  | more limit induction _ =>
      have sound := read_isSound done
      have opened : ∀ tree inputs, Inputs.read (limit + 1) tree = .ok inputs →
          inputs ≠ [] → 0 < limit := fun _ _ => Inputs.read_depth
      have within := read_parts opened (fun _ _ => induction) done
      cases block with
      | plain head =>
          have positive := within.1 (isSound_plain.mp sound).1.inputs_ne_nil
          rw [depth]
          omega
      | container head inner =>
          have positive := within.1 (isSound_container.mp sound).1.inputs_ne_nil
          have less := depths_lt.mpr ⟨positive, within.2 inner rfl⟩
          rw [depth]
          omega

theorem read_isFinite {limit : Nat} {json : Json} {block : Block}
    (done : read limit json = .ok block) : block.numbers.all Float.isFinite := by
  induction limit using Nat.twoStepInduction generalizing json block with
  | zero => cases done
  | one => cases done
  | more limit induction _ =>
      rcases read_parts (fun _ _ => Inputs.read_isFinite) (fun _ _ => induction) done with
        ⟨inputs, inside⟩
      cases block with
      | plain head =>
          rw [numbers_plain]
          exact inputs
      | container head children =>
          rw [numbers_container, List.all_append, Bool.and_eq_true, List.all_flatMap]
          exact ⟨inputs, List.all_eq_true.mpr (inside children rfl)⟩

/-! ## Texts -/

theorem Head.entries_areProper (head : Head) : ∀ entry ∈ head.entries, entry.2.IsProper :=
  List.forall_mem_cons.mpr ⟨Json.natural_isProper _, List.forall_mem_cons.mpr
    ⟨trivial, List.forall_mem_singleton.mpr head.inputs.toJson_isProper⟩⟩

mutual

theorem toJson_isProper (block : Block) : block.toJson.IsProper := by
  cases block with
  | plain head => exact Json.isProper_record.mpr head.entries_areProper
  | container head children =>
      exact Json.isProper_record.mpr (List.forall_mem_append.mpr
        ⟨head.entries_areProper, List.forall_mem_singleton.mpr (toJsons_areProper children)⟩)

theorem toJsons_areProper (blocks : List Block) : Json.AreProper (toJsons blocks) := by
  cases blocks with
  | nil => trivial
  | cons block rest => exact ⟨toJson_isProper block, toJsons_areProper rest⟩

end

theorem ofText_eq {block : Block} (sound : block.IsSound) :
    ofText block.toText =
      Reading.provided (block.numbers.all Float.isFinite ∧ 2 * block.depth < Json.depthLimit)
        block.reread := by
  have document := Document.ofString_toText block.toJson_isProper
  rw [ofText, toText, Reading.text_of_ended document]
  exact read_toJson sound Json.depthLimit

/-- A block that is built comes back from its own text as it was, unless a number in it is not
finite or the tree is deeper than 63 blocks; then the text is refused. -/
theorem ofText_toText {block : Block} (built : block.Built)
    (readBack : ∀ number ∈ block.numbers, number.isFinite → Json.ReadsBack number) :
    ofText block.toText =
      if (∀ number ∈ block.numbers, number.isFinite) ∧ block.depth ≤ 63 then
        .ok block
      else
        .error .malformed := by
  have limit : 2 * block.depth < Json.depthLimit ↔ block.depth ≤ 63 := by
    rw [Json.depthLimit]
    omega
  have finite : block.numbers.all Float.isFinite ↔ ∀ number ∈ block.numbers, number.isFinite :=
    List.all_eq_true
  rw [ofText_eq built.isSound, Reading.provided_of_iff (and_congr finite limit), Reading.provided]
  split
  · next whole => rw [reread_of_readBack readBack (finite.mpr whole.1)]
  · rfl

def tower (count : Nat) : Block :=
  let head : Head := ⟨⟨0⟩, .repeatTimes, [("times", ⟨.number, .number 10.0⟩)]⟩
  match count with
  | 0 => .container head []
  | count + 1 => .container head [tower count]

theorem tower_built (count : Nat) : (tower count).Built := by
  induction count with
  | zero => exact .new .repeatTimes ⟨0⟩
  | succ count induction => exact .push (.new .repeatTimes ⟨0⟩) induction rfl

theorem depth_tower (count : Nat) : (tower count).depth = count + 1 := by
  induction count with
  | zero => rfl
  | succ count induction =>
      rw [tower, depth, depths, depths, induction]
      omega

theorem numbers_tower (count : Nat) : ∀ number ∈ (tower count).numbers, number = 10.0 := by
  induction count with
  | zero => exact List.forall_mem_singleton.mpr rfl
  | succ count induction =>
      rw [tower, numbers_container]
      refine List.forall_mem_append.mpr ⟨List.forall_mem_singleton.mpr rfl, ?_⟩
      simpa using induction

def quoting : Block := (withInputs .say [("text", .text "\"é\n😀")] .start).1

def endless : Block := (withInputs .moveSteps [("steps", .number Number.infinite)] .start).1

/-- The deepest tower that comes back, the next one, any characters in a text, and a number
that is not finite. -/
theorem ofText_toText_limits :
    ofText (tower 62).toText = .ok (tower 62) ∧
      ofText (tower 63).toText = .error .malformed ∧
      ofText quoting.toText = .ok quoting ∧ ofText endless.toText = .error .malformed := by
  have ten : Json.ReadsBack 10.0 := by decide +kernel
  have readBack (count : Nat) :
      ∀ number ∈ (tower count).numbers, number.isFinite → Json.ReadsBack number := by
    intro number member _
    rw [numbers_tower count number member]
    exact ten
  have finite (count : Nat) : ∀ number ∈ (tower count).numbers, number.isFinite := by
    intro number member
    rw [numbers_tower count number member]
    decide +kernel
  refine ⟨?_, ?_, ?_, ?_⟩
  · rw [ofText_toText (tower_built 62) (readBack 62), if_pos]
    exact ⟨finite 62, by rw [depth_tower]⟩
  · rw [ofText_toText (tower_built 63) (readBack 63), if_neg]
    rw [depth_tower]
    simp
  · have built : quoting.Built := .withInputs _ _ _
    rw [ofText_toText built (by decide +kernel), if_pos (by decide +kernel)]
  · have built : endless.Built := .withInputs _ _ _
    rw [ofText_toText built (by decide +kernel), if_neg (by decide +kernel)]

end Block

end SpriteScript
