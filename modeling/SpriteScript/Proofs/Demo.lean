import SpriteScript.Demo
import SpriteScript.Proofs.Detector.Locks
import SpriteScript.Proofs.Stage.Room

namespace SpriteScript

/-! What accepted settings are good for. Whatever a file contains, the settings that it leads to
are accepted, and the engine and the detector can use them; the stage can if their extent is not
too wide, and the demonstration needs no more than that. -/

namespace Settings

theorem valid_of_ofText {text : String} {settings : Settings}
    (accepted : ofText text = .ok settings) : settings.validate = .ok () := by
  rcases ok_of_bind accepted with ⟨again, -, checked⟩
  split at checked
  · next valid =>
      cases checked
      exact valid
  · cases checked

theorem valid_of_ofFile (bytes? : Option ByteArray) : (ofFile bytes?).validate = .ok () := by
  have standard : standard.validate = .ok () := by decide +kernel
  rw [ofFile]
  split
  · exact standard
  · next text _ =>
      split
      · next settings accepted => exact valid_of_ofText accepted
      · exact standard

theorem ofSettings_of_valid {settings : Settings} (valid : settings.validate = .ok ()) :
    ∃ playback, Playback.ofSettings settings = .ok playback := by
  rw [Playback.ofSettings, Detector.ofSettings_of_valid valid]
  exact ⟨_, rfl⟩

end Settings

/-! ## The stage of the demonstration -/

namespace Stage

structure SameCast (stage next : Stage) : Prop where
  ids : next.spriteIds = stage.spriteIds
  active : next.active = stage.active
  spawnExtent : next.spawnExtent = stage.spawnExtent

variable {stage : Stage}

theorem sameCast_withProgram (stage : Stage) (program : List Block) :
    stage.SameCast (stage.withProgram program) :=
  ⟨stage.spriteIds_changeProgram stage.active program, rfl, rfl⟩

theorem addBlock_ok (present : stage.active ∈ stage.spriteIds) (block : Block) :
    ∃ next, stage.addBlock block = .ok next ∧ stage.SameCast next := by
  rcases Option.isSome_iff_exists.mp (mem_spriteIds_iff.mp present) with ⟨sprite, found⟩
  refine ⟨stage.withProgram (sprite.program ++ [block]), ?_, stage.sameCast_withProgram _⟩
  rw [addBlock, program, activeSprite?, found]
  rfl

theorem foldlM_addBlock_ok (present : stage.active ∈ stage.spriteIds) (blocks : List Block) :
    ∃ next, blocks.foldlM Stage.addBlock stage = .ok next ∧ stage.SameCast next := by
  induction blocks generalizing stage with
  | nil => exact ⟨stage, rfl, rfl, rfl, rfl⟩
  | cons block rest induction =>
      rcases addBlock_ok present block with ⟨first, added, same⟩
      have firstPresent : first.active ∈ first.spriteIds := by
        rw [same.active, same.ids]
        exact present
      rcases induction firstPresent with ⟨last, others, later⟩
      refine ⟨last, ?_, later.ids.trans same.ids, later.active.trans same.active,
        later.spawnExtent.trans same.spawnExtent⟩
      rw [List.foldlM_cons, added]
      exact others

theorem select_ok {id : SpriteId} (present : id ∈ stage.spriteIds) :
    stage.select id = .ok { stage with active := id } :=
  if_pos (mem_spriteIds_iff.mp present)

theorem spriteIds_addSprite {next : Stage} {id : SpriteId} {trace : Trace}
    (added : stage.addSprite = (next, some id, trace)) :
    next.spriteIds = stage.spriteIds ++ [id] := by
  have room := stage.addSprite_isSome_iff.mp (by rw [added]; rfl)
  rcases addSprite_of_room room with ⟨sprite, generator, told, isNext, made⟩
  rw [made] at added
  cases added
  rw [spriteIds, List.map_append, List.map_singleton, isNext]
  rfl

end Stage

namespace Demo

theorem programs_ok : ∃ cat dog, programs = .ok (cat, dog) := by
  have isOk : programs.toBool = true := by decide +kernel
  cases made : programs with
  | ok both => exact ⟨both.1, both.2, rfl⟩
  | error fault =>
      rw [made] at isOk
      cases isOk

theorem first_ok (extent : Float32) (program : List Block) :
    ∃ first, program.foldlM Stage.addBlock ((Stage.withExtent seed extent).apply
        (.setPosition Stage.firstSprite ⟨-50.0, 0.0⟩)) = .ok first ∧
      Stage.firstSprite ∈ first.spriteIds ∧ first.spawnExtent = extent := by
  have begun : ((Stage.withExtent seed extent).apply
      (.setPosition Stage.firstSprite ⟨-50.0, 0.0⟩)).spriteIds = [Stage.firstSprite] :=
    Stage.spriteIds_apply _ _
  have present : ((Stage.withExtent seed extent).apply
      (.setPosition Stage.firstSprite ⟨-50.0, 0.0⟩)).active ∈ ((Stage.withExtent seed extent).apply
        (.setPosition Stage.firstSprite ⟨-50.0, 0.0⟩)).spriteIds := by
    rw [begun]
    exact List.mem_singleton_self _
  rcases Stage.foldlM_addBlock_ok present program with ⟨first, filled, same⟩
  refine ⟨first, filled, ?_, same.spawnExtent⟩
  rw [same.ids, begun]
  exact List.mem_singleton_self _

theorem second_ok {stage : Stage} {id : SpriteId} (present : id ∈ stage.spriteIds)
    (other : Stage.firstSprite ∈ stage.spriteIds) (program : List Block) :
    ∃ last, (do
      let stage ← (stage.apply (.setPosition id ⟨50.0, 0.0⟩)).select id
      let stage ← program.foldlM Stage.addBlock stage
      return some (← stage.select Stage.firstSprite)) = .ok (some last) := by
  have moved := stage.spriteIds_apply (.setPosition id ⟨50.0, 0.0⟩)
  have selected := Stage.select_ok (moved ▸ present)
  have active : id ∈ Stage.spriteIds
      { stage.apply (.setPosition id ⟨50.0, 0.0⟩) with active := id } := by
    rw [← moved] at present
    exact present
  rcases Stage.foldlM_addBlock_ok active program with ⟨filled, added, same⟩
  have back : Stage.firstSprite ∈ filled.spriteIds := by
    rw [same.ids]
    rw [← moved] at other
    exact other
  exact ⟨_, (bind_of_ok selected _).trans ((bind_of_ok added _).trans
    (bind_of_ok (Stage.select_ok back) _))⟩

theorem scene?_ok (extent : Float32) :
    ∃ stage?, scene? extent = .ok stage? ∧
      (stage?.isSome = true ↔ Generator.hasRoom extent = true) := by
  rcases programs_ok with ⟨cat, dog, made⟩
  rcases first_ok extent cat with ⟨first, filled, present, spawnExtent⟩
  have room := first.addSprite_isSome_iff
  rw [spawnExtent] at room
  rcases added : first.addSprite with ⟨next, _ | id, trace⟩
  · rw [added] at room
    refine ⟨none, ?_, room⟩
    refine (bind_of_ok made _).trans ((bind_of_ok filled _).trans ?_)
    rw [added]
    rfl
  · rw [added] at room
    have ids := Stage.spriteIds_addSprite added
    have new : id ∈ next.spriteIds := by
      rw [ids]
      exact List.mem_append_right _ (List.mem_singleton_self _)
    have old : Stage.firstSprite ∈ next.spriteIds := by
      rw [ids]
      exact List.mem_append_left _ present
    rcases second_ok new old dog with ⟨last, finished⟩
    refine ⟨some last, ?_, room⟩
    refine (bind_of_ok made _).trans ((bind_of_ok filled _).trans ?_)
    rw [added]
    exact finished

theorem exitCode_run {settings : Settings} (valid : settings.validate = .ok ()) :
    (run settings).exitCode =
      if settings.spawnExtent < Stage.extentLimit then 0 else 101 := by
  rcases scene?_ok settings.spawnExtent with ⟨stage?, made, room⟩
  rcases Settings.ofSettings_of_valid valid with ⟨playback, isPlayback⟩
  rw [(Settings.isMeasured_of_valid valid).hasRoom_iff] at room
  rw [run, made]
  cases stage? with
  | none =>
      rw [if_neg fun less => Bool.false_ne_true (room.mpr less)]
      rfl
  | some stage =>
      rw [if_pos (room.mp rfl), isPlayback]

end Demo

/-! ## Accepted settings -/

namespace Settings

/-- Settings that are accepted, and settings that a file leads to whatever it contains, are
accepted and can be played with. Sprites can be added to their stage, and the demonstration
comes to its end, exactly if the extent is less than the limit. -/
theorem usable_up_to_limit (settings : Settings)
    (origin : settings.validate = .ok () ∨ ∃ bytes?, ofFile bytes? = settings) :
    settings.validate = .ok () ∧
      (∃ playback, Playback.ofSettings settings = .ok playback) ∧
      (∀ seed count, (∀ id? ∈ ((Stage.withExtent seed settings.spawnExtent).addSprites count).2,
        id?.isSome = true) ↔ count = 0 ∨ settings.spawnExtent < Stage.extentLimit) ∧
      (Demo.run settings).exitCode =
        if settings.spawnExtent < Stage.extentLimit then 0 else 101 := by
  have valid : settings.validate = .ok () := by
    rcases origin with valid | ⟨bytes?, rfl⟩
    · exact valid
    · exact valid_of_ofFile bytes?
  refine ⟨valid, ofSettings_of_valid valid, fun seed count => ?_, Demo.exitCode_run valid⟩
  rw [Stage.addSprites_isSome_iff]
  exact or_congr_right (isMeasured_of_valid valid).hasRoom_iff

/-- A file with a great extent that is less than the limit. -/
theorem usable_up_to_limit_great_extent :
    let settings := ofFile (some "\x7b\"spawn_half_extent\":1e38\x7d".toUTF8)
    settings.spawnExtent = 1e38 ∧ settings.validate = .ok () ∧
      (∃ playback, Playback.ofSettings settings = .ok playback) ∧
      (∀ id? ∈ ((Stage.withExtent 1 settings.spawnExtent).addSprites 3).2, id?.isSome = true) ∧
      (Demo.run settings).exitCode = 0 := by
  intro settings
  have extent : settings.spawnExtent = 1e38 := by decide +kernel
  have less : settings.spawnExtent < Stage.extentLimit := by
    rw [extent]
    decide +kernel
  rcases usable_up_to_limit settings (.inr ⟨_, rfl⟩) with ⟨valid, playback, sprites, exitCode⟩
  exact ⟨extent, valid, playback, (sprites 1 3).mpr (.inr less), exitCode.trans (if_pos less)⟩

/-- A file with a great extent. It is accepted, but there is no room for a sprite, and the
demonstration crashes. -/
theorem accepted_file_crashes :
    let settings := ofFile (some "\x7b\"spawn_half_extent\":3e38\x7d".toUTF8)
    settings.spawnExtent = 3e38 ∧ settings.validate = .ok () ∧
      (Stage.withExtent 1 settings.spawnExtent).addSprite.2.1 = none ∧
      Demo.run settings = Demo.crashed := by
  decide +kernel

end Settings

end SpriteScript
