import Mathlib.Algebra.Group.End
import Mathlib.Data.List.Perm.Basic
import Mathlib.Logic.Equiv.Basic
import SpriteScript.Proofs.Stage.Locks

namespace SpriteScript

/-! The programs of a stage and who has them. Actions change no program; a trade exchanges
two of them, which is a transposition of the places of the sprites. -/

def Action.swap? : Action → Option (SpriteId × SpriteId)
  | .swapPrograms left right => some (left, right)
  | _ => none

/-- The trades of a trace in order, those without an effect among them. -/
def Trace.swaps (trace : Trace) : List (SpriteId × SpriteId) :=
  trace.actions.filterMap Action.swap?

theorem Trace.swaps_append (left right : Trace) :
    (left ++ right).swaps = left.swaps ++ right.swaps := by
  rw [swaps, actions_append, List.filterMap_append]
  rfl

namespace Stage

def programs (stage : Stage) : List (List Block) := stage.sprites.map Sprite.program

def roster (stage : Stage) : List (SpriteId × String) :=
  stage.sprites.map fun sprite => (sprite.id, sprite.name)

theorem spriteIds_eq (stage : Stage) : stage.spriteIds = stage.roster.map Prod.fst := by
  rw [roster, List.map_map]
  rfl

theorem length_programs (stage : Stage) : stage.programs.length = stage.spriteIds.length := by
  rw [programs, spriteIds, List.length_map, List.length_map]

theorem program?_eq (stage : Stage) (id : SpriteId) :
    (stage.sprite? id).map Sprite.program = stage.programs[stage.spriteIds.idxOf id]? := by
  simp only [sprite?, programs, spriteIds]
  induction stage.sprites with
  | nil => rfl
  | cons sprite rest induction =>
      by_cases first : sprite.id = id
      · simp [first]
      · simp [first, induction, List.idxOf_cons_ne]

/-! ## One action -/

theorem programs_changeProgram (stage : Stage) (id : SpriteId) (program : List Block) :
    (stage.changeSprite id fun sprite => { sprite with program }).programs =
      stage.programs.set (stage.spriteIds.idxOf id) program := by
  simp only [programs, spriteIds, changeSprite]
  induction stage.sprites with
  | nil => rfl
  | cons sprite rest induction =>
      by_cases first : sprite.id = id
      · simp [changeFirst, first]
      · simp [changeFirst, first, induction, List.idxOf_cons_ne]

theorem roster_changeProgram (stage : Stage) (id : SpriteId) (program : List Block) :
    (stage.changeSprite id fun sprite => { sprite with program }).roster = stage.roster := by
  apply map_changeFirst
  intro sprite _
  rfl

/-- A trade exchanges the programs at the places of the two sprites. Without one of them,
its place is outside of the list, and nothing is exchanged. -/
theorem programs_swapPrograms (stage : Stage) (left right : SpriteId) :
    (stage.swapPrograms left right).programs =
      stage.programs.swap (stage.spriteIds.idxOf left) (stage.spriteIds.idxOf right) := by
  have leftProgram := stage.program?_eq left
  have rightProgram := stage.program?_eq right
  rw [swapPrograms]
  split
  · next same => rw [same, List.swap_self]
  · split
    · next leftSprite rightSprite leftFound rightFound =>
        rw [leftFound, Option.map_some, eq_comm, List.getElem?_eq_some_iff] at leftProgram
        rw [rightFound, Option.map_some, eq_comm, List.getElem?_eq_some_iff] at rightProgram
        rcases leftProgram with ⟨leftInside, leftSame⟩
        rcases rightProgram with ⟨rightInside, rightSame⟩
        rw [programs_changeProgram, programs_changeProgram, spriteIds_changeProgram,
          List.swap_eq_of_lt leftInside rightInside, leftSame, rightSame]
    · next missing =>
        cases leftFound : stage.sprite? left with
        | none =>
            rw [leftFound, Option.map_none, eq_comm, List.getElem?_eq_none_iff] at leftProgram
            rw [List.swap_eq_of_ge_left leftProgram]
        | some leftSprite =>
            cases rightFound : stage.sprite? right with
            | none =>
                rw [rightFound, Option.map_none, eq_comm, List.getElem?_eq_none_iff] at rightProgram
                rw [List.swap_eq_of_ge_right rightProgram]
            | some rightSprite => exact absurd rightFound (missing leftSprite rightSprite leftFound)

theorem roster_swapPrograms (stage : Stage) (left right : SpriteId) :
    (stage.swapPrograms left right).roster = stage.roster := by
  rw [swapPrograms]
  split
  · rfl
  · split
    · rw [roster_changeProgram, roster_changeProgram]
    · rfl

/-! ## Many trades -/

def exchangeAll (ids : List SpriteId) (swaps : List (SpriteId × SpriteId))
    (programs : List (List Block)) : List (List Block) :=
  swaps.foldl (fun programs swap => programs.swap (ids.idxOf swap.1) (ids.idxOf swap.2)) programs

structure Trades (stage : Stage) (swaps : List (SpriteId × SpriteId)) (next : Stage) : Prop where
  roster : next.roster = stage.roster
  programs : next.programs = exchangeAll stage.spriteIds swaps stage.programs

theorem Trades.refl (stage : Stage) : stage.Trades [] stage := ⟨rfl, rfl⟩

theorem Trades.spriteIds {stage next : Stage} {swaps : List (SpriteId × SpriteId)}
    (trades : stage.Trades swaps next) : next.spriteIds = stage.spriteIds := by
  rw [spriteIds_eq, trades.roster, ← spriteIds_eq]

theorem Trades.append {stage middle next : Stage} {first second : List (SpriteId × SpriteId)}
    (before : stage.Trades first middle) (after : middle.Trades second next) :
    stage.Trades (first ++ second) next := by
  constructor
  · rw [after.roster, before.roster]
  · rw [after.programs, before.spriteIds, before.programs, exchangeAll, exchangeAll, exchangeAll,
      List.foldl_append]

theorem trades_apply (stage : Stage) (action : Action) :
    stage.Trades action.swap?.toList (stage.apply action) := by
  cases action with
  | swapPrograms left right =>
      exact ⟨stage.roster_swapPrograms left right, stage.programs_swapPrograms left right⟩
  | lock key => exact ⟨rfl, rfl⟩
  | unlock key => exact ⟨rfl, rfl⟩
  | _ =>
      constructor
      · apply map_changeFirst
        intro sprite _
        rfl
      · apply map_changeFirst
        intro sprite _
        rfl

theorem trades_replay (stage : Stage) (trace : Trace) :
    stage.Trades trace.swaps (stage.replay trace) := by
  rw [Trace.swaps, replay]
  induction trace.actions generalizing stage with
  | nil => exact .refl stage
  | cons action rest induction =>
      have both := (stage.trades_apply action).append (induction (stage.apply action))
      rw [List.foldl_cons, List.filterMap_cons]
      cases swap : action.swap? with
      | none =>
          rw [swap] at both
          exact both
      | some pair =>
          rw [swap] at both
          exact both

/-! ## Places -/

/-- The transposition of the places of two sprites. It is nothing for a sprite and itself,
or without one of the sprites. -/
def transposition (ids : List SpriteId) (swap : SpriteId × SpriteId) : Equiv.Perm Nat :=
  if swap.1 ∈ ids ∧ swap.2 ∈ ids then
    Equiv.swap (ids.idxOf swap.1) (ids.idxOf swap.2)
  else
    1

/-- Where the programs come from after trades: the transpositions in order. -/
def rearrangement (ids : List SpriteId) (swaps : List (SpriteId × SpriteId)) : Equiv.Perm Nat :=
  (swaps.map (transposition ids)).prod

theorem getElem?_swap {α : Type} (items : List α) {i j : Nat} (leftInside : i < items.length)
    (rightInside : j < items.length) (place : Nat) :
    (items.swap i j)[place]? = items[Equiv.swap i j place]? := by
  rw [List.swap_eq_of_lt leftInside rightInside, Equiv.swap_apply_def, List.getElem?_set,
    List.getElem?_set, List.length_set]
  grind

theorem getElem?_swap_idxOf {ids : List SpriteId} {programs : List (List Block)}
    (same : programs.length = ids.length) (swap : SpriteId × SpriteId) (place : Nat) :
    (programs.swap (ids.idxOf swap.1) (ids.idxOf swap.2))[place]? =
      programs[transposition ids swap place]? := by
  rw [transposition]
  split
  · next present =>
      refine getElem?_swap programs ?_ ?_ place
      · rw [same]
        exact List.idxOf_lt_length_iff.mpr present.1
      · rw [same]
        exact List.idxOf_lt_length_iff.mpr present.2
  · next absent =>
      have kept : programs.swap (ids.idxOf swap.1) (ids.idxOf swap.2) = programs := by
        by_cases first : swap.1 ∈ ids
        · have second : swap.2 ∉ ids := fun member => absent ⟨first, member⟩
          rw [List.swap_eq_of_ge_right (by rw [List.idxOf_eq_length second, same])]
        · rw [List.swap_eq_of_ge_left (by rw [List.idxOf_eq_length first, same])]
      rw [kept]
      rfl

theorem getElem?_exchangeAll {ids : List SpriteId} {programs : List (List Block)}
    (same : programs.length = ids.length) (swaps : List (SpriteId × SpriteId)) (place : Nat) :
    (exchangeAll ids swaps programs)[place]? = programs[rearrangement ids swaps place]? := by
  rw [exchangeAll, rearrangement]
  induction swaps generalizing programs with
  | nil => rfl
  | cons swap rest induction =>
      rw [List.foldl_cons, induction (by rw [List.length_swap, same]),
        getElem?_swap_idxOf same, List.map_cons, List.prod_cons]
      rfl

theorem exchangeAll_perm (ids : List SpriteId) (swaps : List (SpriteId × SpriteId))
    (programs : List (List Block)) : (exchangeAll ids swaps programs).Perm programs := by
  rw [exchangeAll]
  induction swaps generalizing programs with
  | nil => exact .refl programs
  | cons swap rest induction => exact (induction _).trans (List.swap_perm ..)

theorem rearrangement_idxOf (ids : List SpriteId) {swaps : List (SpriteId × SpriteId)}
    {id : SpriteId} (others : ∀ swap ∈ swaps, swap.1 ≠ id ∧ swap.2 ≠ id) :
    rearrangement ids swaps (ids.idxOf id) = ids.idxOf id := by
  rw [rearrangement]
  induction swaps with
  | nil => rfl
  | cons swap rest induction =>
      rcases List.forall_mem_cons.mp others with ⟨first, later⟩
      rw [List.map_cons, List.prod_cons, Equiv.Perm.mul_apply, induction later, transposition]
      split
      · next present =>
          refine Equiv.swap_apply_of_ne_of_ne ?_ ?_
          · exact fun equal => first.1 ((List.idxOf_inj present.1).mp equal.symm)
          · exact fun equal => first.2 ((List.idxOf_inj present.2).mp equal.symm)
      · rfl

end Stage

end SpriteScript
