import Mathlib.Data.List.Range
import SpriteScript.Proofs.Stage.InPlace
import SpriteScript.Proofs.Stage.Locks
import SpriteScript.Proofs.Stage.Room

namespace SpriteScript

/-! The numbers of sprites. Sprites are numbered from one on in the order in which they are
added, so a number belongs to one sprite alone, and the first match of a look-up is the only
one. The selected sprite is always there. -/

namespace Stage

/-! ## Identifiers that differ -/

section Distinct

variable {stage : Stage} {id : SpriteId}

theorem filter_of_found (distinct : stage.spriteIds.Nodup) {sprite : Sprite}
    (found : stage.sprite? id = some sprite) :
    stage.sprites.filter (fun other => other.id == id) = [sprite] := by
  have first : (stage.sprites.filter fun other => other.id == id).head? = some sprite := by
    rw [List.head?_filter]
    exact found
  have atMost : (stage.sprites.filter fun other => other.id == id).length ≤ 1 := by
    have once := List.nodup_iff_count_le_one.mp distinct id
    rwa [spriteIds, List.count, List.countP_map, List.countP_eq_length_filter] at once
  rcases List.head?_eq_some_iff.mp first with ⟨others, split⟩
  rw [split, List.length_cons] at atMost
  rw [split, List.length_eq_zero_iff.mp (Nat.le_zero.mp (Nat.le_of_succ_le_succ atMost))]

theorem sprites_changeSprite (distinct : stage.spriteIds.Nodup) (id : SpriteId)
    (change : Sprite → Sprite) :
    (stage.changeSprite id change).sprites =
      stage.sprites.map fun sprite => if sprite.id = id then change sprite else sprite := by
  rw [spriteIds] at distinct
  change changeFirst id change stage.sprites = _
  generalize stage.sprites = sprites at distinct ⊢
  induction sprites with
  | nil => rfl
  | cons first rest induction =>
      rcases List.nodup_cons.mp distinct with ⟨absent, restDistinct⟩
      rw [changeFirst, List.map_cons]
      split
      · next named =>
          -- No other sprite has the identifier, so behind the first match nothing changes.
          have kept : ∀ sprite ∈ rest,
              (if sprite.id = id then change sprite else sprite) = sprite := by
            intro sprite later
            refine if_neg fun same => absent ?_
            rw [named, ← same]
            exact List.mem_map_of_mem later
          rw [List.map_congr_left kept, List.map_id']
      · rw [induction restDistinct]

theorem select_error_iff {fault : Fault} :
    stage.select id = .error fault ↔ id ∉ stage.spriteIds ∧ fault = .spriteNotFound id := by
  rw [mem_spriteIds_iff, select]
  split
  · next present => simp [present]
  · next absent => simp [absent, eq_comm]

end Distinct

/-! ## Selecting in place -/

def InPlace.select (id : SpriteId) : EStateM Fault Stage Unit := do
  if ((← get).sprite? id).isSome then
    modify fun stage => { stage with active := id }
  else
    throw (.spriteNotFound id)

section InPlace

variable {stage left : Stage} {id : SpriteId} {fault : Fault}

theorem run_select_of_present (present : (stage.sprite? id).isSome = true) :
    (InPlace.select id).run stage = .ok () { stage with active := id } := by
  have current : (get : EStateM Fault Stage Stage).run stage = .ok stage stage := rfl
  rw [InPlace.select, run_bind_of_ok current, if_pos present]
  rfl

theorem run_select_of_absent (absent : ¬(stage.sprite? id).isSome = true) :
    (InPlace.select id).run stage = .error (.spriteNotFound id) stage := by
  have current : (get : EStateM Fault Stage Stage).run stage = .ok stage stage := rfl
  rw [InPlace.select, run_bind_of_ok current, if_neg absent]
  rfl

theorem run_select_ok_iff :
    (InPlace.select id).run stage = .ok () left ↔ stage.select id = .ok left := by
  by_cases present : (stage.sprite? id).isSome = true
  · rw [run_select_of_present present, select, if_pos present]
    simp only [EStateM.Result.ok.injEq, true_and, Except.ok.injEq]
  · rw [run_select_of_absent present, select, if_neg present]
    simp only [reduceCtorEq]

theorem run_select_error_iff :
    (InPlace.select id).run stage = .error fault left ↔
      stage.select id = .error fault ∧ left = stage := by
  by_cases present : (stage.sprite? id).isSome = true
  · rw [run_select_of_present present, select, if_pos present]
    simp only [reduceCtorEq, false_and]
  · rw [run_select_of_absent present, select, if_neg present]
    simp only [EStateM.Result.error.injEq, Except.error.injEq, eq_comm (a := stage)]

end InPlace

/-! ## The numbers -/

def numbers (stage : Stage) : List Nat := stage.spriteIds.map fun id => id.number.toNat

/-- How many sprites there are after additions. Without room there is the first one alone. -/
def population (extent : Float32) (additions : Nat) : Nat :=
  if Generator.hasRoom extent = true then additions + 1 else 1

namespace Edit

def additions : Edit → Nat
  | .addSprite => 1
  | _ => 0

def KeepsIds : Edit → Prop
  | .change id made => ∀ sprite, sprite.id = id → (made sprite).id = sprite.id
  | _ => True

end Edit

/-- Whether the sprites of a stage are numbered in order, after a number of additions. An
addition without room uses up a number as well. -/
structure Numbered (stage : Stage) (extent : Float32) (additions : Nat) : Prop where
  numbers : stage.numbers = List.range' 1 (population extent additions)
  nextSprite : stage.nextSprite.toNat = additions + 2
  spawnExtent : stage.spawnExtent = extent
  active : stage.active ∈ stage.spriteIds

theorem numbered_withExtent (seed : UInt64) (extent : Float32) :
    (withExtent seed extent).Numbered extent 0 where
  numbers := by rw [population, Nat.zero_add, ite_self]; rfl
  nextSprite := rfl
  spawnExtent := rfl
  active := List.mem_singleton_self _

theorem number_injective : Function.Injective fun id : SpriteId => id.number.toNat := by
  rintro ⟨left⟩ ⟨right⟩ same
  exact congrArg SpriteId.mk (UInt32.toNat_inj.mp same)

namespace Numbered

variable {stage : Stage} {extent : Float32} {additions : Nat}

/-! ### Looking up -/

theorem length_sprites (numbered : stage.Numbered extent additions) :
    stage.sprites.length = population extent additions := by
  have lengths := congrArg List.length numbered.numbers
  rwa [Stage.numbers, spriteIds, List.length_map, List.length_map, List.length_range'] at lengths

theorem nodup (numbered : stage.Numbered extent additions) : stage.spriteIds.Nodup := by
  refine List.Nodup.of_map (fun id => id.number.toNat) ?_
  rw [← Stage.numbers, numbered.numbers]
  exact List.nodup_range'

theorem not_mem_iff (numbered : stage.Numbered extent additions) {id : SpriteId} :
    id ∉ stage.spriteIds ↔ id.number.toNat = 0 ∨ stage.sprites.length < id.number.toNat := by
  rw [← List.mem_map_of_injective number_injective, ← Stage.numbers, numbered.numbers,
    numbered.length_sprites, List.mem_range'_1]
  omega

theorem performEdit_ne (numbered : stage.Numbered extent additions) (edit : ProgramEdit)
    (missing : SpriteId) : stage.performEdit edit ≠ .error (.spriteNotFound missing) := by
  intro told
  have outcome := stage.outcome edit
  rw [told] at outcome
  generalize edit.inPlace.run stage = ran at outcome
  cases outcome with
  | refused refusal =>
      cases refusal with
      | missing absent =>
          have present := mem_spriteIds_iff.mp numbered.active
          rw [← activeSprite?, absent] at present
          cases present

/-! ### Additions -/

theorem number_of_added (numbered : stage.Numbered extent additions) {id : SpriteId}
    (added : stage.addSprite.2.1 = some id) : id.number.toNat = stage.sprites.length + 1 := by
  have room : Generator.hasRoom stage.spawnExtent = true :=
    stage.addSprite_isSome_iff.mp (by rw [added]; rfl)
  rcases addSprite_of_room room with ⟨sprite, generator, trace, _, made⟩
  rw [made] at added
  cases added
  rw [numbered.spawnExtent] at room
  rw [numbered.nextSprite, numbered.length_sprites, population, if_pos room]

theorem addSprite (numbered : stage.Numbered extent additions)
    (few : additions + 1 + 2 < 2 ^ 32) : stage.addSprite.1.Numbered extent (additions + 1) := by
  -- There are numbers left, so the next one does not start again from zero.
  have next : (stage.nextSprite + 1).toNat = additions + 1 + 2 := by
    rw [UInt32.toNat_add, numbered.nextSprite, UInt32.toNat_one]
    omega
  have before := numbered.numbers
  cases room : Generator.hasRoom extent with
  | true =>
      rw [← numbered.spawnExtent] at room
      rcases addSprite_of_room room with ⟨sprite, generator, trace, isNext, made⟩
      rw [numbered.spawnExtent] at room
      rw [population, if_pos room] at before
      rw [made]
      refine ⟨?_, next, numbered.spawnExtent, ?_⟩
      · rw [population, if_pos room, List.range'_1_concat, ← before, Nat.add_comm 1]
        simp only [Stage.numbers, spriteIds, List.map_append, List.map_singleton, isNext,
          numbered.nextSprite]
      · rw [spriteIds, List.map_append]
        exact List.mem_append_left _ numbered.active
  | false =>
      have cramped : population extent (additions + 1) = population extent additions := by
        rw [population, population, room]
        rfl
      rw [← numbered.spawnExtent] at room
      rw [addSprite_of_cramped room]
      exact ⟨cramped ▸ before, next, numbered.spawnExtent, numbered.active⟩

/-! ### Edits -/

theorem withSprites (numbered : stage.Numbered extent additions) {sprites : List Sprite}
    (ids : sprites.map Sprite.id = stage.spriteIds) (locks : List LockKey) :
    { stage with sprites, locks }.Numbered extent additions where
  numbers := by
    rw [Stage.numbers, spriteIds, ids]
    exact numbered.numbers
  nextSprite := numbered.nextSprite
  spawnExtent := numbered.spawnExtent
  active := by
    rw [spriteIds, ids]
    exact numbered.active

theorem setPlaying (numbered : stage.Numbered extent additions) (isPlaying : Bool) :
    { stage with isPlaying }.Numbered extent additions :=
  ⟨numbered.numbers, numbered.nextSprite, numbered.spawnExtent, numbered.active⟩

theorem apply (numbered : stage.Numbered extent additions) (action : Action) :
    (stage.apply action).Numbered extent additions := by
  have ids := stage.spriteIds_apply action
  rcases stage.apply_eq action with ⟨sprites, locks, same⟩
  rw [same] at ids ⊢
  exact numbered.withSprites ids locks

theorem select (numbered : stage.Numbered extent additions) (id : SpriteId) :
    (stage.edit (.select id)).Numbered extent additions := by
  rw [Stage.edit, Stage.select]
  split
  · next present =>
      exact ⟨numbered.numbers, numbered.nextSprite, numbered.spawnExtent,
        mem_spriteIds_iff.mpr present⟩
  · exact numbered

theorem edit (numbered : stage.Numbered extent additions) {edit : Edit} (keeps : edit.KeepsIds)
    (few : additions + edit.additions + 2 < 2 ^ 32) :
    (stage.edit edit).Numbered extent (additions + edit.additions) := by
  cases edit with
  | program edit =>
      rcases stage.edit_program edit with same | ⟨program, changed⟩
      · rw [same]
        exact numbered
      · rw [changed]
        exact numbered.withSprites (stage.spriteIds_changeProgram stage.active program) _
  | act action => exact numbered.apply action
  | change id made => exact numbered.withSprites (stage.spriteIds_changeSprite id keeps) _
  | addSprite => exact numbered.addSprite few
  | select id => exact numbered.select id
  | setPlaying isPlaying => exact numbered.setPlaying isPlaying

end Numbered

end Stage

end SpriteScript
