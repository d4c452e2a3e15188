import SpriteScript.Proofs.Run.Landing
import SpriteScript.Proofs.Session.Unfolding

namespace SpriteScript.Session

/-! A program that is left alone leads a sprite to one and the same look, whatever
the settings are and whenever the frames come. -/

variable {session : Session} {id : SpriteId}

def KeepsLook (session : Session) (id : SpriteId) : List Call → Prop
  | [] => True
  | call :: rest =>
      (call.isOfEngine = false →
        ((session.perform call).stage.sprite? id).map Sprite.look =
          (session.stage.sprite? id).map Sprite.look) ∧
      (session.perform call).KeepsLook id rest

theorem look_of_over (ordered : session.engine.Ordered) {look : Look}
    (seen : (session.stage.sprite? id).map Sprite.look = some look) {calls : List Call}
    (notRun : NeverRuns id calls) (keeps : session.KeepsLook id calls)
    (ends : (session.after calls).engine.runOf? id = none)
    (unstopped : ((session.engineTrace calls).about id).hasStop id = false) :
    (∀ run, session.engine.runOf? id = some run → run.isCancelled = false) ∧
      ((session.after calls).stage.sprite? id).map Sprite.look =
        some (Run.destinationOf (session.engine.runOf? id) look) := by
  induction calls generalizing session look with
  | nil =>
      rw [after] at ends
      rw [ends]
      exact ⟨fun _ found => absurd found (Option.not_mem_none _), seen⟩
  | cons call rest induction =>
      have restOrdered := perform_ordered ordered call
      rcases List.forall_mem_cons.mp notRun with ⟨notFirst, notLater⟩
      rw [engineTrace, Trace.about_append, Trace.hasStop_append, Bool.or_eq_false_iff] at unstopped
      rw [after] at ends ⊢
      have unseen (same : call.isOfEngine = true →
          (session.perform call).stage.sprite? id = session.stage.sprite? id) :
          ((session.perform call).stage.sprite? id).map Sprite.look = some look := by
        cases isOf : call.isOfEngine with
        | true => rw [same isOf, seen]
        | false => rw [keeps.1 isOf, seen]
      have onward {later : Look} (seen : ((session.perform call).stage.sprite? id).map
          Sprite.look = some later) :=
        induction restOrdered seen notLater keeps.2 ends unstopped.2
      cases found : session.engine.runOf? id with
      | none =>
          rcases perform_of_none ordered found notFirst with ⟨_, idle, same⟩
          have landed := (onward (unseen same)).2
          rw [idle] at landed
          exact ⟨fun _ found => absurd found (Option.not_mem_none _), landed⟩
      | some run =>
          rcases perform_of_some ordered found call with
            ⟨_, kept | marked, same⟩ | ⟨now, told, left, changed⟩
          · rw [← kept]
            exact onward (unseen same)
          · -- A marked run would be stopped before its end.
            have free := (onward (unseen same)).1 _ marked
            cases free
          · rcases Option.map_eq_some_iff.mp seen with ⟨sprite, present, looks⟩
            have calm := unstopped.1
            rw [told, Trace.hasStop_about] at calm
            have free : run.isCancelled = false := Run.isCancelled_of_unstopped calm
            rw [present, Option.map_some] at changed
            have landed := (onward (congrArg (Option.map Sprite.look) changed)).2
            refine ⟨fun other same => ?_, ?_⟩
            · cases same
              exact free
            · rw [landed, left, ← looks]
              exact congrArg some (Run.leg_destination present free)

/-- Whether calls start the program of a sprite and bring it to its end, while it is
not stopped and nothing else changes the look of the sprite. -/
structure PlaysOut (session : Session) (id : SpriteId) (sprite : Sprite) (now : Float)
    (later : List Call) : Prop where
  reached : session.Reached
  found : session.stage.sprite? id = some sprite
  resting : sprite.isRunning = false
  free : session.engine.isRunning id = false
  once : NeverRuns id later
  keeps : session.KeepsLook id (.engine (.run id now) :: later)
  ends : (session.after (.engine (.run id now) :: later)).engine.isRunning id = false
  unstopped : (session.engineTrace (.engine (.run id now) :: later)).hasStop id = false

theorem PlaysOut.look_after {sprite : Sprite} {now : Float} {later : List Call}
    (plays : session.PlaysOut id sprite now later) :
    ((session.after (.engine (.run id now) :: later)).stage.sprite? id).map Sprite.look =
      some (sprite.look.afterAll (Block.unfolds sprite.program)) := by
  have ordered := perform_ordered plays.reached.ordered (.engine (.run id now))
  have ends := plays.ends
  have unstopped := plays.unstopped
  rw [Engine.isRunning_eq_false_iff, after] at ends
  rw [engineTrace, Trace.hasStop_append, Bool.or_eq_false_iff, ← Trace.hasStop_about _ id,
    ← Trace.hasStop_about (engineTrace ..)] at unstopped
  have onward {look : Look} (seen : ((session.perform (.engine (.run id now))).stage.sprite?
      id).map Sprite.look = some look) :=
    (look_of_over ordered seen plays.once plays.keeps.2 ends unstopped.2).2
  rw [after]
  rcases perform_run plays.found plays.resting plays.free now with
    ⟨empty, _, idle, present⟩ | ⟨_, left, present⟩
  · rw [onward (congrArg (Option.map Sprite.look) present), idle, empty]
    rfl
  · rw [onward (congrArg (Option.map Sprite.look) present), left, ← Run.destination_ofProgram]
    exact congrArg some (Run.leg_destination rfl rfl)

/-- Two sessions in which a program plays out from one look lead to one look,
whatever their settings and times are, and to the stance that the blocks of the
program come to one after the other. -/
theorem look_independent_of_frames {left right : Session} {leftId rightId : SpriteId}
    {leftSprite rightSprite : Sprite} {leftNow rightNow : Float} {leftLater rightLater : List Call}
    (leftPlays : left.PlaysOut leftId leftSprite leftNow leftLater)
    (rightPlays : right.PlaysOut rightId rightSprite rightNow rightLater)
    (sameProgram : rightSprite.program = leftSprite.program)
    (sameLook : rightSprite.look = leftSprite.look) :
    let leftEnd := left.after (.engine (.run leftId leftNow) :: leftLater)
    let rightEnd := right.after (.engine (.run rightId rightNow) :: rightLater)
    ∃ look, (leftEnd.stage.sprite? leftId).map Sprite.look = some look ∧
      (rightEnd.stage.sprite? rightId).map Sprite.look = some look ∧
      look.toStance = leftSprite.stance.afterAll (Block.unfolds leftSprite.program) := by
  refine ⟨_, leftPlays.look_after, ?_, Look.toStance_afterAll _ _⟩
  rw [rightPlays.look_after, sameProgram, sameLook]

/-- Two turns and a remark, in a few late frames and in more frames without pauses. -/
theorem look_independent_of_frames_remark :
    let turn := Block.plain ⟨⟨1⟩, .turnDegrees, [("degrees", ⟨.number, .number 90.0⟩)]⟩
    let turns := Block.container ⟨⟨2⟩, .repeatTimes, [("times", ⟨.number, .number 2.0⟩)]⟩ [turn]
    let remark := Block.plain ⟨⟨3⟩, .say,
      [("seconds", ⟨.number, .number 1.0⟩), ("text", ⟨.text, .text "Hi"⟩)]⟩
    let sprite := { Sprite.new ⟨1⟩ "Cat" .origin with program := [turns, remark] }
    let stage := { Stage.ofSeed 0 with sprites := [sprite] }
    let detector : Detector Float := ⟨100.0, 40.0, 100.0, none, []⟩
    let left := begin .standard stage detector
    let right := begin { Settings.standard with pacing := 0.0 } stage detector
    let frames (times : List Float) : List Call := times.map fun now => .engine (.advance now)
    let leftLater := frames [2000.0, 4000.0, 6000.0, 8000.0, 10000.0, 12000.0, 14000.0]
    let rightLater := frames [150.0, 310.0, 320.0, 700.0, 705.0, 710.0, 1706.0, 1710.0, 1711.0]
    ((left.after (.engine (.run ⟨1⟩ 0.0) :: leftLater)).stage.sprite? ⟨1⟩).map Sprite.look =
      ((right.after (.engine (.run ⟨1⟩ 5.0) :: rightLater)).stage.sprite? ⟨1⟩).map Sprite.look := by
  intro turn turns remark sprite stage detector left right frames leftLater rightLater
  have leftPlays : left.PlaysOut ⟨1⟩ sprite 0.0 leftLater := by
    refine ⟨⟨_, _, _, [], rfl⟩, rfl, rfl, rfl, ?_, ?_, ?_, ?_⟩
    · simp [NeverRuns, leftLater, frames]
    · simp [KeepsLook, Call.isOfEngine, leftLater, frames]
    · decide +kernel
    · decide +kernel
  have rightPlays : right.PlaysOut ⟨1⟩ sprite 5.0 rightLater := by
    refine ⟨⟨_, _, _, [], rfl⟩, rfl, rfl, rfl, ?_, ?_, ?_, ?_⟩
    · simp [NeverRuns, rightLater, frames]
    · simp [KeepsLook, Call.isOfEngine, rightLater, frames]
    · decide +kernel
    · decide +kernel
  rcases look_independent_of_frames leftPlays rightPlays rfl rfl with ⟨_, leftLook, rightLook, _⟩
  exact leftLook.trans rightLook.symm

end SpriteScript.Session
