import SpriteScript.Proofs.Block.Population

namespace SpriteScript

/-! Copies of trees. A copy differs from the original in its identifiers alone, and these are the
next ones of the source, in the order of the nodes. The two facts leave one tree. -/

namespace BlockIds

variable {ids : BlockIds} {count : Nat}

theorem toNat_skip (few : ids.next.toNat + count < UInt64.size) :
    (ids.skip count).next.toNat = ids.next.toNat + count := by
  rw [skip, UInt64.toNat_add, UInt64.toNat_ofNat_of_lt' (by omega), Nat.mod_eq_of_lt few]

theorem numbers_upcoming (few : ids.next.toNat + count ≤ UInt64.size) :
    (ids.upcoming count).map (fun id => id.number.toNat) = List.range' ids.next.toNat count := by
  rw [upcoming, List.map_map, List.range'_eq_map_range]
  apply List.map_congr_left
  intro place early
  rw [List.mem_range] at early
  exact toNat_skip (by omega)

end BlockIds

namespace Block

mutual

/-- A tree with the same identifier everywhere, for comparisons in which they do not count. -/
def unnumbered : Block → Block
  | .plain head => .plain { head with id := ⟨0⟩ }
  | .container head children => .container { head with id := ⟨0⟩ } (unnumberedAll children)

def unnumberedAll : List Block → List Block
  | [] => []
  | block :: rest => block.unnumbered :: unnumberedAll rest

end

def idNumbers (block : Block) : List Nat := block.nodes.map fun node => node.id.number.toNat

/-! ## What is copied -/

mutual

theorem duplicate_unnumbered (ids : BlockIds) (block : Block) :
    (duplicate ids block).1.unnumbered = block.unnumbered := by
  cases block with
  | plain head => rfl
  | container head children =>
      exact congrArg (container _) (duplicates_unnumbered ids.take.2 children)

theorem duplicates_unnumbered (ids : BlockIds) (blocks : List Block) :
    unnumberedAll (duplicates ids blocks).1 = unnumberedAll blocks := by
  cases blocks with
  | nil => rfl
  | cons block rest =>
      simp only [duplicates, unnumberedAll]
      rw [duplicate_unnumbered, duplicates_unnumbered]

end

theorem length_nodes_duplicate (ids : BlockIds) (block : Block) :
    (duplicate ids block).1.nodes.length = block.nodes.length := by
  have given := congrArg List.length (duplicate_ids ids block).1
  rwa [List.length_map, BlockIds.length_upcoming] at given

/-! ## One tree for each numbering -/

mutual

theorem size_unnumbered (block : Block) : block.unnumbered.size = block.size := by
  cases block with
  | plain head => rfl
  | container head children => rw [unnumbered, size, sizes_unnumberedAll, size]

theorem sizes_unnumberedAll (blocks : List Block) :
    sizes (unnumberedAll blocks) = sizes blocks := by
  cases blocks with
  | nil => rfl
  | cons block rest => rw [unnumberedAll, sizes, size_unnumbered, sizes_unnumberedAll, sizes]

end

theorem length_nodes_of_unnumbered {left right : Block}
    (alike : left.unnumbered = right.unnumbered) : left.nodes.length = right.nodes.length := by
  rw [length_nodes, length_nodes, ← size_unnumbered, alike, size_unnumbered]

theorem Head.eq_of_unnumbered {left right : Head}
    (alike : { left with id := ⟨0⟩ } = { right with id := ⟨0⟩ }) (same : left.id = right.id) :
    left = right := by
  cases left
  cases right
  cases same
  cases alike
  rfl

mutual

theorem eq_of_unnumbered {left right : Block} (alike : left.unnumbered = right.unnumbered)
    (same : left.nodes.map id = right.nodes.map id) : left = right := by
  cases left with
  | plain leftHead =>
      cases right with
      | plain rightHead =>
          rw [Head.eq_of_unnumbered (plain.inj alike) (List.singleton_inj.mp same)]
      | container rightHead rightChildren => cases alike
  | container leftHead leftChildren =>
      cases right with
      | plain rightHead => cases alike
      | container rightHead rightChildren =>
          rcases container.inj alike with ⟨heads, children⟩
          rcases List.cons.inj same with ⟨first, inside⟩
          rw [Head.eq_of_unnumbered heads first, eq_of_unnumberedAll children inside]

theorem eq_of_unnumberedAll {left right : List Block}
    (alike : unnumberedAll left = unnumberedAll right)
    (same : (nodesOf left).map id = (nodesOf right).map id) : left = right := by
  cases left with
  | nil =>
      cases right with
      | nil => rfl
      | cons block rest => cases alike
  | cons leftBlock leftRest =>
      cases right with
      | nil => cases alike
      | cons rightBlock rightRest =>
          rcases List.cons.inj alike with ⟨first, later⟩
          rw [nodesOf, nodesOf, List.map_append, List.map_append] at same
          -- Blocks that are alike have as many identifiers, so both lists part at one place.
          have long : (leftBlock.nodes.map id).length = (rightBlock.nodes.map id).length := by
            rw [List.length_map, List.length_map, length_nodes_of_unnumbered first]
          rcases List.append_inj same long with ⟨firstIds, laterIds⟩
          rw [eq_of_unnumbered first firstIds, eq_of_unnumberedAll later laterIds]

end

theorem map_id_eq_of_idNumbers {left right : Block} (same : left.idNumbers = right.idNumbers) :
    left.nodes.map id = right.nodes.map id := by
  have injective : Function.Injective fun id : BlockId => id.number.toNat := by
    intro first second equal
    exact congrArg BlockId.mk (UInt64.toNat.inj equal)
  apply List.map_injective_iff.mpr injective
  rw [List.map_map, List.map_map]
  exact same

/-- As long as the source does not come round, a copy is the only tree that is like the original
up to the identifiers and has the next numbers of the source as its identifiers, each block before
its children. Nothing but the source moves in the process: all blocks that there are stay. -/
theorem duplicate_renumbers {ids : BlockIds} {block : Block}
    (few : ids.next.toNat + block.nodes.length < UInt64.size) :
    let copy := (duplicate ids block).1
    let rest := (duplicate ids block).2
    let count := block.nodes.length
    (∀ tree : Block, tree = copy ↔
      tree.unnumbered = block.unnumbered ∧ tree.idNumbers = List.range' ids.next.toNat count) ∧
    rest.next.toNat = ids.next.toNat + count ∧ copy.size = count ∧ block.size = count ∧
    ∀ population : Population, population.ids = ids →
      population.bear (.duplicate block) =
        { population with ids := rest, created := population.created ++ [copy] } := by
  intro copy rest count
  rcases duplicate_ids ids block with ⟨given, moved⟩
  have numbers : copy.idNumbers = List.range' ids.next.toNat count := by
    rw [← BlockIds.numbers_upcoming few.le, ← given, List.map_map]
    rfl
  refine ⟨?_, ?_, ?_, ?_, ?_⟩
  · intro tree
    constructor
    · rintro rfl
      exact ⟨duplicate_unnumbered ids block, numbers⟩
    · rintro ⟨alike, numbered⟩
      apply eq_of_unnumbered (alike.trans (duplicate_unnumbered ids block).symm)
      exact map_id_eq_of_idNumbers (numbered.trans numbers.symm)
  · rw [show rest = ids.skip count from moved]
    exact BlockIds.toNat_skip few
  · rw [← length_nodes]
    exact length_nodes_duplicate ids block
  · exact (length_nodes block).symm
  · rintro population rfl
    rfl

/-- Five blocks at three levels take the five numbers before the last one. -/
theorem duplicate_renumbers_last :
    let loop (number : UInt64) := Block.container ⟨⟨number⟩, .repeatTimes, []⟩
    let step (number : UInt64) (kind : BlockKind) := Block.plain ⟨⟨number⟩, kind, []⟩
    let ids : BlockIds := ⟨18446744073709551610⟩
    let block := loop 9 [step 9 .say, loop 3 [step 4 .moveSteps], step 1 .turnDegrees]
    let tree := loop 18446744073709551610 [step 18446744073709551611 .say,
      loop 18446744073709551612 [step 18446744073709551613 .moveSteps],
      step 18446744073709551614 .turnDegrees]
    (duplicate ids block).1 = tree ∧
      (duplicate ids block).2.next.toNat = 18446744073709551615 := by
  intro loop step ids block tree
  have few : ids.next.toNat + block.nodes.length < UInt64.size := by decide +kernel
  have numbered : tree.idNumbers = List.range' ids.next.toNat block.nodes.length := by
    decide +kernel
  rcases duplicate_renumbers few with ⟨only, moved, _⟩
  exact ⟨((only tree).mpr ⟨rfl, numbered⟩).symm, moved⟩

end Block

end SpriteScript
