import Mathlib.Data.List.Nodup
import SpriteScript.Proofs.Block.Schema
import SpriteScript.Stage.SpriteData

namespace SpriteScript

/-! The identifiers of blocks: each block that is created takes the next one of the source. -/

namespace BlockIds

def upcoming (ids : BlockIds) (count : Nat) : List BlockId :=
  (List.range count).map fun place => ⟨ids.next + .ofNat place⟩

def skip (ids : BlockIds) (count : Nat) : BlockIds := ⟨ids.next + .ofNat count⟩

theorem length_upcoming (ids : BlockIds) (count : Nat) : (ids.upcoming count).length = count := by
  rw [upcoming, List.length_map, List.length_range]

theorem skip_add (ids : BlockIds) (first later : Nat) :
    ids.skip (first + later) = (ids.skip first).skip later := by
  rw [skip, skip, skip, UInt64.ofNat_add, ← UInt64.add_assoc]

theorem upcoming_add (ids : BlockIds) (first later : Nat) :
    ids.upcoming (first + later) = ids.upcoming first ++ (ids.skip first).upcoming later := by
  simp only [upcoming, skip, List.range_add, List.map_append, List.map_map, Function.comp_def,
    UInt64.ofNat_add, UInt64.add_assoc]

theorem upcoming_one (ids : BlockIds) : ids.upcoming 1 = [ids.take.1] := by
  simp [upcoming, take]

theorem upcoming_nodup (ids : BlockIds) {count : Nat} (few : count ≤ UInt64.size) :
    (ids.upcoming count).Nodup := by
  refine List.nodup_range.map_on ?_
  intro left isLeft right isRight same
  have places : UInt64.ofNat left = .ofNat right :=
    (UInt64.add_right_inj _).mp (congrArg BlockId.number same)
  have numbers := congrArg UInt64.toNat places
  rw [List.mem_range] at isLeft isRight
  rwa [UInt64.toNat_ofNat_of_lt' (by omega), UInt64.toNat_ofNat_of_lt' (by omega)] at numbers

/-- While the source has not come round, it gives out one number after the other. -/
theorem mem_upcoming_start {given count : Nat} (few : given + count < UInt64.size) {id : BlockId} :
    id ∈ (start.skip given).upcoming count ↔
      given < id.number.toNat ∧ id.number.toNat ≤ given + count := by
  have number {place : Nat} (early : place < count) :
      ((start.skip given).next + .ofNat place).toNat = given + place + 1 := by
    have total : (start.skip given).next + .ofNat place = .ofNat (1 + given + place) := by
      rw [UInt64.ofNat_add, UInt64.ofNat_add]
      rfl
    rw [total, UInt64.toNat_ofNat_of_lt' (by omega)]
    omega
  simp only [upcoming, List.mem_map, List.mem_range]
  constructor
  · rintro ⟨place, early, rfl⟩
    rw [number early]
    omega
  · rintro ⟨above, atMost⟩
    refine ⟨id.number.toNat - given - 1, by omega, ?_⟩
    refine congrArg BlockId.mk (UInt64.toNat.inj ?_)
    rw [number (by omega)]
    omega

end BlockIds

namespace Block

/-! ## Copies -/

mutual

theorem duplicate_ids (ids : BlockIds) (block : Block) :
    (duplicate ids block).1.nodes.map id = ids.upcoming block.nodes.length ∧
      (duplicate ids block).2 = ids.skip block.nodes.length := by
  cases block with
  | plain head => exact ⟨ids.upcoming_one.symm, rfl⟩
  | container head children =>
      rcases duplicates_ids ids.take.2 children with ⟨given, rest⟩
      constructor
      · simp only [duplicate, nodes, List.map_cons, List.length_cons, given]
        rw [Nat.add_comm, BlockIds.upcoming_add, BlockIds.upcoming_one]
        rfl
      · simp only [duplicate, nodes, List.length_cons, rest]
        rw [Nat.add_comm, BlockIds.skip_add]
        rfl

theorem duplicates_ids (ids : BlockIds) (blocks : List Block) :
    (nodesOf (duplicates ids blocks).1).map id = ids.upcoming (nodesOf blocks).length ∧
      (duplicates ids blocks).2 = ids.skip (nodesOf blocks).length := by
  cases blocks with
  | nil => exact ⟨rfl, by simp [duplicates, nodesOf, BlockIds.skip]⟩
  | cons block others =>
      rcases duplicate_ids ids block with ⟨given, rest⟩
      rcases duplicates_ids (duplicate ids block).2 others with ⟨laterGiven, laterRest⟩
      rw [rest] at laterGiven laterRest
      constructor
      · simp only [duplicates, nodesOf, List.map_append, List.length_append, given, rest,
          laterGiven, BlockIds.upcoming_add]
      · simp only [duplicates, nodesOf, List.length_append, rest, laterRest, BlockIds.skip_add]

end

/-! ## New blocks -/

theorem withHead_ids {block : Block} {head : Head} (same : head.id = block.id) :
    (block.withHead head).nodes.map id = block.nodes.map id := by
  cases block with
  | plain other => exact congrArg List.singleton same
  | container other children => exact congrArg (List.cons · _) same

theorem setInputs_ids (block : Block) (values : List (String × InputValue)) :
    (block.setInputs values).nodes.map id = block.nodes.map id := by
  induction values generalizing block with
  | nil => rfl
  | cons entry rest induction =>
      refine (induction ((block.setInput? entry.1 entry.2).getD block)).trans ?_
      rw [setInput?]
      split
      · exact withHead_ids rfl
      · rfl

theorem withInputs_ids (kind : BlockKind) (values : List (String × InputValue)) (ids : BlockIds) :
    (withInputs kind values ids).1.nodes.map id = ids.upcoming 1 := by
  rw [withInputs, BlockIds.upcoming_one]
  refine (setInputs_ids _ values).trans ?_
  rw [new]
  split <;> rfl

end Block

end SpriteScript
