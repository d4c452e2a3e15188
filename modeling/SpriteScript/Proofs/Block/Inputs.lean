import Mathlib.Data.List.Perm.Subperm
import Mathlib.Data.String.Basic
import SpriteScript.Block.Input

namespace SpriteScript.Inputs

/-! Inputs in ascending order of their names, so with each name once. -/

def IsAscending (inputs : Inputs) : Prop := inputs.names.Pairwise (· < ·)

theorem has_iff {inputs : Inputs} {name : String} : inputs.has name ↔ name ∈ inputs.names := by
  simp [has, names]

theorem mem_names_insert {inputs : Inputs} {name other : String} {input : Input} :
    other ∈ (inputs.insert name input).names ↔ other = name ∨ other ∈ inputs.names := by
  induction inputs with
  | nil => simp [insert, names]
  | cons entry rest induction =>
      simp only [names] at induction
      rw [insert]
      split
      · next same =>
          rw [beq_iff_eq] at same
          simp [names, same]
      · split
        · simp [names]
        · simp only [names, List.map_cons, List.mem_cons, induction]
          exact or_left_comm

theorem mem_insert {inputs : Inputs} {name : String} {input : Input} {entry : String × Input}
    (member : entry ∈ inputs.insert name input) : entry = (name, input) ∨ entry ∈ inputs := by
  induction inputs with
  | nil => exact .inl (List.mem_singleton.mp member)
  | cons first rest induction =>
      rw [insert] at member
      split at member
      · exact (List.mem_cons.mp member).imp_right (List.mem_cons_of_mem first)
      · split at member
        · exact List.mem_cons.mp member
        · rcases List.mem_cons.mp member with rfl | member
          · exact .inr List.mem_cons_self
          · exact (induction member).imp_right (List.mem_cons_of_mem first)

theorem IsAscending.insert {inputs : Inputs} (ascending : inputs.IsAscending) (name : String)
    (input : Input) : (inputs.insert name input).IsAscending := by
  induction inputs with
  | nil => exact List.pairwise_singleton _ _
  | cons entry rest induction =>
      rcases List.pairwise_cons.mp ascending with ⟨least, ascendingRest⟩
      rw [Inputs.insert]
      split
      · next same =>
          rw [beq_iff_eq] at same
          exact List.pairwise_cons.mpr ⟨same ▸ least, ascendingRest⟩
      · next different =>
          rw [beq_iff_eq] at different
          split
          · next before =>
              refine List.pairwise_cons.mpr ⟨?_, ascending⟩
              intro other member
              rcases List.mem_cons.mp member with rfl | member
              · exact before
              · exact before.trans (least other member)
          · next after =>
              refine List.pairwise_cons.mpr ⟨?_, induction ascendingRest⟩
              intro other member
              rcases mem_names_insert.mp member with rfl | member
              · exact lt_of_le_of_ne (not_lt.mp after) different
              · exact least other member

theorem insert_of_last {inputs : Inputs} {name : String}
    (last : ∀ other ∈ inputs.names, other < name) (input : Input) :
    inputs.insert name input = inputs ++ [(name, input)] := by
  induction inputs with
  | nil => rfl
  | cons entry rest induction =>
      have before : entry.1 < name := last entry.1 List.mem_cons_self
      have induction := induction fun other member => last other (List.mem_cons_of_mem _ member)
      rw [insert, if_neg (by simpa using before.ne), if_neg before.asymm, induction]
      rfl

theorem names_perm {inputs : Inputs} {names : List String} (each : names.Nodup)
    (count : inputs.length = names.length) (all : ∀ name ∈ names, inputs.has name) :
    inputs.names.Perm names := by
  have among : names ⊆ inputs.names := fun name member => has_iff.mp (all name member)
  have few : inputs.names.length ≤ names.length := by rw [Inputs.names, List.length_map, count]
  exact ((each.subperm among).perm_of_length_le few).symm

end SpriteScript.Inputs
