import SpriteScript.Play.Playback
import SpriteScript.Proofs.Detector.Call
import SpriteScript.Proofs.Engine.Call
import SpriteScript.Proofs.Stage.Numbering

namespace SpriteScript

/-! The numbers of sprites, whatever is done to a stage. All that plays on it comes down to
actions and to the playing flag, and neither adds a sprite nor renames one. -/

namespace Stage

/-! ## What playing keeps -/

structure IsKept (motive : Stage → Prop) : Prop where
  apply : ∀ {stage}, motive stage → ∀ action, motive (stage.apply action)
  setPlaying : ∀ {stage : Stage}, motive stage → ∀ isPlaying, motive { stage with isPlaying }

namespace IsKept

variable {motive : Stage → Prop} {stage : Stage}

theorem replay (kept : IsKept motive) (holds : motive stage) (trace : Trace) :
    motive (stage.replay trace) := by
  rw [Stage.replay]
  induction trace.actions generalizing stage with
  | nil => exact holds
  | cons action rest induction => exact induction (kept.apply holds action)

theorem engine (kept : IsKept motive) (holds : motive stage) (engine : Engine)
    (call : Engine.Call) : motive (engine.perform stage call).stage := by
  rw [(engine.perform_stage stage call).1]
  exact kept.replay holds _

theorem detector (kept : IsKept motive) (holds : motive stage) (detector : Detector Float)
    (call : Detector.Call) : motive (detector.perform stage call).stage := by
  rw [(detector.perform_stage stage call).1]
  exact kept.replay holds _

theorem runAll (kept : IsKept motive) (holds : motive stage) (engine : Engine) (now : Float)
    (ids : List SpriteId) : motive (Playback.runAll engine stage now ids).stage := by
  induction ids generalizing engine stage with
  | nil => exact holds
  | cons id rest induction => exact induction (kept.engine holds engine (.run id now)) _

theorem play (kept : IsKept motive) (holds : motive stage) (playback : Playback) (now : Float) :
    motive (playback.play stage now).stage := by
  rw [Playback.play]
  split
  · exact holds
  · have started := kept.runAll (kept.setPlaying holds true) playback.engine now stage.spriteIds
    simp only
    split
    · exact kept.setPlaying started false
    · exact started

theorem stop (kept : IsKept motive) (holds : motive stage) (playback : Playback) (now : Float) :
    motive (playback.stop stage now).stage :=
  kept.setPlaying (kept.engine holds playback.engine.stopAll (.advance now)) false

theorem toggle (kept : IsKept motive) (holds : motive stage) (playback : Playback)
    (now : Float) : motive (playback.toggle stage now).stage := by
  simp only [Playback.toggle]
  split
  · exact kept.stop holds playback now
  · exact kept.play holds playback now

theorem frame (kept : IsKept motive) (holds : motive stage) (playback : Playback) (now : Float) :
    motive (playback.frame stage now).stage := by
  have advanced := kept.engine holds playback.engine (.advance now)
  have scanned := kept.detector advanced playback.detector (.advance now)
  simp only [Playback.frame]
  split
  · exact kept.setPlaying scanned false
  · exact scanned

end IsKept

theorem Numbered.isKept (extent : Float32) (additions : Nat) :
    IsKept fun stage => stage.Numbered extent additions :=
  ⟨Numbered.apply, Numbered.setPlaying⟩

/-! ## Operations -/

/-- What is done to a stage: an edit, or the call of something that plays on it. What plays
may be in any state, and may have played on other stages before. -/
inductive Operation
  | edit (edit : Edit)
  | engine (engine : Engine) (call : Engine.Call)
  | detector (detector : Detector Float) (call : Detector.Call)
  | play (playback : Playback) (now : Float)
  | stop (playback : Playback) (now : Float)
  | toggle (playback : Playback) (now : Float)
  | frame (playback : Playback) (now : Float)

namespace Operation

def additions : Operation → Nat
  | .edit made => made.additions
  | _ => 0

def KeepsIds : Operation → Prop
  | .edit made => made.KeepsIds
  | _ => True

end Operation

def perform (stage : Stage) : Operation → Stage
  | .edit made => stage.edit made
  | .engine engine call => (engine.perform stage call).stage
  | .detector detector call => (detector.perform stage call).stage
  | .play playback now => (playback.play stage now).stage
  | .stop playback now => (playback.stop stage now).stage
  | .toggle playback now => (playback.toggle stage now).stage
  | .frame playback now => (playback.frame stage now).stage

def after (stage : Stage) (operations : List Operation) : Stage := operations.foldl perform stage

def countAdditions (operations : List Operation) : Nat :=
  (operations.map Operation.additions).sum

namespace Numbered

variable {stage : Stage} {extent : Float32} {additions : Nat}

theorem perform (numbered : stage.Numbered extent additions) {operation : Operation}
    (keeps : operation.KeepsIds) (few : additions + operation.additions + 2 < 2 ^ 32) :
    (stage.perform operation).Numbered extent (additions + operation.additions) := by
  have kept := isKept extent additions
  cases operation with
  | edit made => exact numbered.edit keeps few
  | engine engine call => exact kept.engine numbered engine call
  | detector detector call => exact kept.detector numbered detector call
  | play playback now => exact kept.play numbered playback now
  | stop playback now => exact kept.stop numbered playback now
  | toggle playback now => exact kept.toggle numbered playback now
  | frame playback now => exact kept.frame numbered playback now

theorem after (numbered : stage.Numbered extent additions) {operations : List Operation}
    (keep : ∀ operation ∈ operations, operation.KeepsIds)
    (few : additions + countAdditions operations + 2 < 2 ^ 32) :
    (stage.after operations).Numbered extent (additions + countAdditions operations) := by
  induction operations generalizing stage additions with
  | nil => exact numbered
  | cons operation rest induction =>
      rcases List.forall_mem_cons.mp keep with ⟨first, later⟩
      have total : additions + countAdditions (operation :: rest) =
          additions + operation.additions + countAdditions rest := by
        rw [countAdditions, List.map_cons, List.sum_cons, ← Nat.add_assoc, countAdditions]
      rw [total] at few ⊢
      exact induction (numbered.perform first (by omega)) later few

end Numbered

/-- Whatever is done to a stage of any extent, and in whatever order: its sprites have the
numbers from one on in order of creation, the sprite that is added next gets the number after
the last one, and the selected sprite is there. So an edit of a program never misses its sprite,
what is found under an identifier is the only sprite with it, a change under an identifier is
that of this one sprite, and a selection is refused exactly for zero and for numbers after the
last one. A refused selection leaves the stage as it was, also where it is made in place.

An addition without room fails, but its number is used up. Since the room stays as it is, no
sprite is added later on either. -/
theorem sprites_stay_numbered (seed : UInt64) (extent : Float32) {operations : List Operation}
    (keep : ∀ operation ∈ operations, operation.KeepsIds)
    (few : countAdditions operations < 2 ^ 32 - 2) :
    let stage := (withExtent seed extent).after operations
    let count := stage.sprites.length
    stage.numbers = List.range' 1 count ∧
      (∀ id, stage.addSprite.2.1 = some id → id.number.toNat = count + 1) ∧
      stage.nextSprite.toNat = count + 1 +
        (if Generator.hasRoom extent = true then 0 else countAdditions operations) ∧
      stage.active ∈ stage.spriteIds ∧
      (∀ edit missing, stage.performEdit edit ≠ .error (.spriteNotFound missing)) ∧
      (∀ id, stage.sprite? id = none ↔ id.number.toNat = 0 ∨ count < id.number.toNat) ∧
      (∀ id sprite, stage.sprite? id = some sprite →
        stage.sprites.filter (fun other => other.id == id) = [sprite]) ∧
      (∀ id change, (stage.changeSprite id change).sprites =
        stage.sprites.map fun sprite => if sprite.id = id then change sprite else sprite) ∧
      (∀ id, (∃ fault, stage.select id = .error fault) ↔
        id.number.toNat = 0 ∨ count < id.number.toNat) ∧
      (∀ id next, (InPlace.select id).run stage = .ok () next ↔ stage.select id = .ok next) ∧
      ∀ id fault left, (InPlace.select id).run stage = .error fault left ↔
        stage.select id = .error fault ∧ left = stage := by
  intro stage count
  have numbered : stage.Numbered extent (0 + countAdditions operations) :=
    (numbered_withExtent seed extent).after keep (by omega)
  rw [Nat.zero_add] at numbered
  have length : count = population extent (countAdditions operations) := numbered.length_sprites
  refine ⟨?_, fun id => numbered.number_of_added, ?_, numbered.active, numbered.performEdit_ne, ?_,
    fun id sprite => filter_of_found numbered.nodup, sprites_changeSprite numbered.nodup, ?_,
    fun id next => run_select_ok_iff, fun id fault left => run_select_error_iff⟩
  · rw [length]
    exact numbered.numbers
  · rw [numbered.nextSprite, length, population]
    split <;> omega
  · intro id
    rw [← numbered.not_mem_iff, mem_spriteIds_iff, Option.not_isSome_iff_eq_none]
  · intro id
    simp only [select_error_iff, exists_eq_right]
    exact numbered.not_mem_iff

/-- Two sprites are added, one is selected and given a program, a selection of a sprite that is
not there is refused, and all play. On a stage without room two additions fail, and two numbers
are used up. -/
theorem sprites_stay_numbered_playing :
    let turn := Block.plain ⟨⟨1⟩, .turnDegrees, [("degrees", ⟨.number, .number 90.0⟩)]⟩
    let playback : Playback := ⟨.ofSettings .standard, ⟨100.0, 50.0, 1000.0, none, []⟩⟩
    let edits : List Operation := [.edit .addSprite, .edit (.select ⟨2⟩), .edit (.select ⟨42⟩),
      .edit (.program (.addBlock turn)), .edit .addSprite,
      .edit (.change ⟨1⟩ fun sprite => { sprite with name := "Dog" })]
    let played := playback.play ((ofSeed 7).after edits) 0.0
    let operations := edits ++ [.play playback 0.0, .frame played.actor 16.0]
    let stage := (ofSeed 7).after operations
    let cramped := (withExtent 7 0.0).after [.edit .addSprite, .edit .addSprite]
    (∀ operation ∈ operations, operation.KeepsIds) ∧ countAdditions operations < 2 ^ 32 - 2 ∧
      stage.isPlaying = true ∧ stage.numbers = [1, 2, 3] ∧ stage.active = ⟨2⟩ ∧
      stage.nextSprite.toNat = 4 ∧ (∃ fault, stage.select ⟨4⟩ = .error fault) ∧
      cramped.numbers = [1] ∧ cramped.nextSprite.toNat = 4 := by
  intro turn playback edits played operations stage cramped
  have keep : ∀ operation ∈ operations, operation.KeepsIds := by
    simp [operations, edits, Operation.KeepsIds, Edit.KeepsIds]
  have few : countAdditions operations < 2 ^ 32 - 2 := by decide
  have room : Generator.hasRoom Settings.standard.spawnExtent = true := by decide +kernel
  have three : stage.sprites.length = 3 := by decide +kernel
  rcases sprites_stay_numbered 7 Settings.standard.spawnExtent keep few with
    ⟨numbers, _, next, _, _, _, _, _, refused, _⟩
  have crampedKeep : ∀ operation ∈ [Operation.edit .addSprite, .edit .addSprite],
      operation.KeepsIds := by simp [Operation.KeepsIds, Edit.KeepsIds]
  have noRoom : ¬Generator.hasRoom 0.0 = true := by decide +kernel
  have one : cramped.sprites.length = 1 := by decide +kernel
  rcases sprites_stay_numbered 7 0.0 crampedKeep (by decide) with ⟨alone, _, usedUp, _⟩
  refine ⟨keep, few, by decide +kernel, ?_, by decide +kernel, ?_, ?_, ?_, ?_⟩
  · exact numbers.trans (congrArg (List.range' 1) three)
  · rw [if_pos room] at next
    exact next.trans (congrArg (· + 1) three)
  · exact (refused ⟨4⟩).mpr (.inr (three.trans_lt (by decide)))
  · exact alone.trans (congrArg (List.range' 1) one)
  · rw [if_neg noRoom] at usedUp
    exact usedUp.trans (congrArg (· + 1 + 2) one)

end Stage

end SpriteScript
