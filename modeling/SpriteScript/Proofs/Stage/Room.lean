import SpriteScript.Proofs.Settings.Valid
import SpriteScript.Proofs.Stage.Spawn
import SpriteScript.Stage.Basic

namespace SpriteScript

/-! Adding sprites, one after the other. Whether there is room for them is a matter of the
extent alone: it must be less than half of the least number that is too great. -/

open Number

/-- The least extent that leaves no room. -/
def Stage.extentLimit : Float32 := .ofBits 0x7F000000

theorem Stage.value_extentLimit :
    IsFinite extentLimit ∧ 2 * value extentLimit = ceiling .binary32 := by
  have unpacked : Binary.unpacked extentLimit =
      .finite .positive 8388608 104 (by decide) := rfl
  have grid : greatestGrid .binary32 = 104 := by decide
  constructor
  · rw [IsFinite, unpacked]
    rfl
  · rw [value, unpacked, valueOf_positive, ceiling, grid]
    norm_num [Float.Model.Format.mantissaBits]

theorem Settings.IsMeasured.hasRoom_iff {settings : Settings} (measured : settings.IsMeasured) :
    Generator.hasRoom settings.spawnExtent = true ↔
      settings.spawnExtent < Stage.extentLimit := by
  have finite : IsFinite settings.spawnExtent := measured.spawnExtent.1
  have positive : 0 < value settings.spawnExtent := by
    have above : ¬settings.spawnExtent ≤ Arithmetic.zero := measured.spawnExtent.2
    rwa [le_iff_value finite isFinite_zero, value_zero, not_le] at above
  have limit := Stage.value_extentLimit
  rw [Generator.hasRoom_iff finite, and_iff_right positive, ← limit.2,
    lt_iff_value finite limit.1]
  exact mul_lt_mul_iff_right₀ two_pos

namespace Stage

/-! ## One sprite -/

theorem addSprite_of_room {stage : Stage}
    (room : Generator.hasRoom stage.spawnExtent = true) :
    ∃ sprite generator trace, sprite.id = ⟨stage.nextSprite⟩ ∧ stage.addSprite =
      ({ stage with
          sprites := stage.sprites ++ [sprite]
          generator
          nextSprite := stage.nextSprite + 1 }, some ⟨stage.nextSprite⟩, trace) := by
  rw [addSprite, Generator.place?, if_pos room]
  exact ⟨_, _, _, rfl, rfl⟩

theorem addSprite_of_cramped {stage : Stage}
    (cramped : Generator.hasRoom stage.spawnExtent = false) :
    stage.addSprite = ({ stage with nextSprite := stage.nextSprite + 1 }, none, []) := by
  rw [addSprite, Generator.place?, cramped]
  rfl

theorem addSprite_isSome_iff (stage : Stage) :
    stage.addSprite.2.1.isSome = true ↔ Generator.hasRoom stage.spawnExtent = true := by
  rw [addSprite, Generator.place?]
  by_cases room : Generator.hasRoom stage.spawnExtent = true
  · simp [room]
  · simp [room]

theorem addSprite_spawnExtent (stage : Stage) :
    stage.addSprite.1.spawnExtent = stage.spawnExtent := by
  rw [addSprite]
  cases stage.generator.place? stage.spawnExtent <;> rfl

/-! ## Many sprites -/

/-- Adds a number of sprites; the identifiers come in order, without those of sprites that
there is no room for. -/
def addSprites (stage : Stage) : Nat → Stage × List (Option SpriteId)
  | 0 => (stage, [])
  | count + 1 =>
      let (next, id?, _) := stage.addSprite
      let (last, ids) := next.addSprites count
      (last, id? :: ids)

theorem addSprites_isSome_iff (stage : Stage) (count : Nat) :
    (∀ id? ∈ (stage.addSprites count).2, id?.isSome = true) ↔
      count = 0 ∨ Generator.hasRoom stage.spawnExtent = true := by
  induction count generalizing stage with
  | zero => exact iff_of_true (List.forall_mem_nil _) (.inl rfl)
  | succ count induction =>
      have later := induction stage.addSprite.1
      rw [addSprite_spawnExtent] at later
      simp only [addSprites, List.forall_mem_cons, addSprite_isSome_iff, later]
      simp only [Nat.add_eq_zero_iff, one_ne_zero, and_false, false_or]
      exact ⟨And.left, fun room => ⟨room, .inr room⟩⟩

end Stage

end SpriteScript
