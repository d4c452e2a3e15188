import SpriteScript.Proofs.Stage.Bare
import SpriteScript.Proofs.Session.Unfolding

namespace SpriteScript

/-! A run goes through the program that its sprite had when it started. Programs may be
edited and traded meanwhile, and nothing of it is seen in the run; the next run goes
through the program of that moment. -/

namespace Session

/-! ## Calls -/

def Call.isOfPrograms : Call → Bool
  | .detector _ => true
  | .edit made => made.isOfPrograms
  | .engine _ => false

def besides (calls : List Call) : List Call := calls.filter fun call => !call.isOfPrograms

/-- Whether a call takes no notice of programs, unless to start a run. -/
def Call.IsBlind : Call → Prop
  | .edit made => made.IsBlind
  | _ => True

theorem Call.isBlind_of_programs {call : Call} (isOf : call.isOfPrograms = true) :
    call.IsBlind := by
  cases call with
  | engine call => trivial
  | detector call => trivial
  | edit edit =>
      cases edit with
      | change => cases isOf
      | _ => trivial

theorem forall_of_besides {property : Call → Prop}
    (ofPrograms : ∀ call : Call, call.isOfPrograms = true → property call) {later other : List Call}
    (same : besides other = besides later) (holds : ∀ call ∈ later, property call) :
    ∀ call ∈ other, property call := by
  intro call member
  cases isOf : call.isOfPrograms with
  | true => exact ofPrograms call isOf
  | false =>
      have isBesides : call ∈ besides other := List.mem_filter.mpr ⟨member, by simp [isOf]⟩
      rw [same] at isBesides
      exact holds call (List.mem_filter.mp isBesides).1

/-- What is heard of a sprite: for each call, but those that are of programs, what the
engine does for the sprite and whether the sprite has a run afterwards. -/
def heard (session : Session) (id : SpriteId) : List Call → List (Trace × Bool)
  | [] => []
  | call :: rest =>
      let next := session.perform call
      if call.isOfPrograms then
        next.heard id rest
      else
        ((session.told call).about id, next.engine.isRunning id) :: next.heard id rest

variable {session left right : Session} {id : SpriteId} {sprite : Sprite} {call : Call}

/-! ## Two sessions -/

structure Alike (id : SpriteId) (sprite : Sprite) (left right : Session) : Prop where
  leftOrdered : left.engine.Ordered
  rightOrdered : right.engine.Ordered
  settings : left.engine.settings = right.engine.settings
  run : left.engine.runOf? id = right.engine.runOf? id
  leftFound : left.stage.bare? id = some sprite
  rightFound : right.stage.bare? id = some sprite

theorem bare?_perform_of_programs (isOf : call.isOfPrograms = true) (blind : call.IsBlind)
    (found : session.stage.bare? id = some sprite) :
    (session.perform call).stage.bare? id = some sprite := by
  cases call with
  | engine call => cases isOf
  | detector call =>
      have done := session.detector.perform_stage session.stage call
      simp only [perform]
      rw [done.1, ← found]
      exact Stage.view_replay Sprite.bare (fun _ _ => rfl) session.stage (done.2.sprite?_ne id)
  | edit edit =>
      have unseen : edit.onBare id sprite = sprite := Stage.Edit.onBare_of_programs isOf id sprite
      rw [← unseen]
      exact Stage.bare?_edit blind found

theorem engine_perform_of_programs (isOf : call.isOfPrograms = true) :
    (session.perform call).engine = session.engine := by
  cases call with
  | engine call => cases isOf
  | detector call => rfl
  | edit edit => rfl

theorem Alike.perform_of_programs (alike : Alike id sprite left right)
    (isOf : call.isOfPrograms = true) (blind : call.IsBlind) :
    Alike id sprite (left.perform call) right where
  leftOrdered := perform_ordered alike.leftOrdered call
  rightOrdered := alike.rightOrdered
  settings := by rw [engine_perform_of_programs isOf, alike.settings]
  run := by rw [engine_perform_of_programs isOf, alike.run]
  leftFound := bare?_perform_of_programs isOf blind alike.leftFound
  rightFound := alike.rightFound

theorem bare?_perform_engine (found : session.stage.bare? id = some sprite)
    (call : Engine.Call) :
    (session.perform (.engine call)).stage.bare? id =
      some (sprite.perform ((session.told (.engine call)).about id).actions) := by
  rcases Option.map_eq_some_iff.mp found with ⟨whole, isWhole, isBare⟩
  simp only [perform, told]
  rw [Stage.bare?, Engine.sprite?_perform, isWhole, ← isBare, ← Sprite.bare_perform]
  rfl

theorem Alike.stances (alike : Alike id sprite left right) :
    (left.stage.sprite? id).map Sprite.stance = (right.stage.sprite? id).map Sprite.stance := by
  have bares : left.stage.bare? id = right.stage.bare? id :=
    alike.leftFound.trans alike.rightFound.symm
  have seen := congrArg (Option.map Sprite.stance) bares
  rw [Stage.bare?, Stage.bare?, Option.map_map, Option.map_map] at seen
  exact seen

theorem Alike.perform_engine (alike : Alike id sprite left right) {call : Engine.Call}
    (notRun : ∀ now, call ≠ .run id now) :
    (∃ next, Alike id next (left.perform (.engine call)) (right.perform (.engine call))) ∧
      (left.told (.engine call)).about id = (right.told (.engine call)).about id := by
  have legs := Engine.Share.leg_congr (left.engine.share left.stage id)
    (right.engine.share right.stage id) alike.run alike.stances left.engine.settings id call
  have leftLeg := Engine.perform_leg alike.leftOrdered left.stage notRun
  have rightLeg := Engine.perform_leg alike.rightOrdered right.stage notRun
  rw [← alike.settings, ← legs] at rightLeg
  have told : (left.told (.engine call)).about id = (right.told (.engine call)).about id :=
    leftLeg.2.trans rightLeg.2.symm
  have leftFound := bare?_perform_engine alike.leftFound call
  have rightFound := bare?_perform_engine alike.rightFound call
  rw [← told] at rightFound
  refine ⟨⟨_, ?_, ?_, ?_, leftLeg.1.trans rightLeg.1.symm, leftFound, rightFound⟩, told⟩
  · exact perform_ordered alike.leftOrdered (.engine call)
  · exact perform_ordered alike.rightOrdered (.engine call)
  · simp only [perform, Engine.perform_settings]
    exact alike.settings

theorem Alike.perform (alike : Alike id sprite left right) (other : call.isOfPrograms = false)
    (blind : call.IsBlind) (notRun : ∀ now, call ≠ .engine (.run id now)) :
    (∃ next, Alike id next (left.perform call) (right.perform call)) ∧
      (left.told call).about id = (right.told call).about id := by
  cases call with
  | engine call =>
      apply alike.perform_engine
      intro now same
      exact notRun now (congrArg Call.engine same)
  | detector call => cases other
  | edit edit =>
      have leftFound := Stage.bare?_edit blind alike.leftFound
      have rightFound := Stage.bare?_edit blind alike.rightFound
      exact ⟨⟨_, alike.leftOrdered, alike.rightOrdered, alike.settings, alike.run, leftFound,
        rightFound⟩, rfl⟩

theorem Alike.heard_filter (alike : Alike id sprite left right) {calls : List Call}
    (blind : ∀ call ∈ calls, call.IsBlind) (once : NeverRuns id calls) :
    left.heard id calls = right.heard id (besides calls) := by
  induction calls generalizing left right sprite with
  | nil => rfl
  | cons call rest induction =>
      rcases List.forall_mem_cons.mp blind with ⟨blindFirst, blindLater⟩
      rcases List.forall_mem_cons.mp once with ⟨notFirst, notLater⟩
      cases isOf : call.isOfPrograms with
      | true =>
          have later := induction (alike.perform_of_programs isOf blindFirst) blindLater notLater
          have left : besides (call :: rest) = besides rest :=
            List.filter_cons_of_neg (by simp [isOf])
          rw [left, heard, if_pos isOf, later]
      | false =>
          rcases alike.perform isOf blindFirst notFirst with ⟨⟨next, nextAlike⟩, told⟩
          have running : (left.perform call).engine.isRunning id =
              (right.perform call).engine.isRunning id := by
            rw [Engine.isRunning_eq, nextAlike.run, Engine.isRunning_eq]
          have kept : besides (call :: rest) = call :: besides rest :=
            List.filter_cons_of_pos (by simp [isOf])
          have later := induction nextAlike blindLater notLater
          rw [kept, heard, heard, isOf, told, running, later]

/-- Two histories from the start of a run that differ in nothing but changes of programs:
the sprite and its run hear the same in both. The run goes through the program that the
sprite had at the start, and the next run through the one that it has by then. -/
theorem run_keeps_program (reached : session.Reached)
    (found : session.stage.sprite? id = some sprite) (resting : sprite.isRunning = false)
    (free : session.engine.isRunning id = false) (now : Float) {later other : List Call}
    (blind : ∀ call ∈ later, call.IsBlind) (once : NeverRuns id later)
    (same : besides other = besides later) :
    let calls := .engine (.run id now) :: later
    let last := session.after calls
    session.heard id calls = session.heard id (.engine (.run id now) :: other) ∧
      Trace.Follows ((session.engineTrace calls).about id) id (Block.unfolds sprite.program)
        (last.engine.isRunning id = false) ∧
      ∀ (next : Sprite) (moment : Float) (rest : List Call),
        last.stage.sprite? id = some next → next.isRunning = false →
          last.engine.isRunning id = false → NeverRuns id rest →
            let again := .engine (.run id moment) :: rest
            Trace.Follows ((last.engineTrace again).about id) id (Block.unfolds next.program)
              ((last.after again).engine.isRunning id = false) := by
  intro calls last
  refine ⟨?_, follows_of_start reached.ordered found resting free now once, ?_⟩
  · have blindOther : ∀ call ∈ other, call.IsBlind :=
      forall_of_besides (fun _ => Call.isBlind_of_programs) same blind
    have onceOther : NeverRuns id other := by
      refine forall_of_besides ?_ same once
      rintro _ isOf moment rfl
      cases isOf
    have ordered := perform_ordered reached.ordered (.engine (.run id now))
    have begun : session.stage.bare? id = some sprite.bare := congrArg (Option.map _) found
    have running := bare?_perform_engine begun (.run id now)
    have alike : Alike id _ _ _ := ⟨ordered, ordered, rfl, rfl, running, running⟩
    have heardLater := alike.heard_filter blind once
    have heardOther := alike.heard_filter blindOther onceOther
    rw [heard, heard, heardLater, heardOther, same]
  · intro next moment rest found resting free once
    exact follows_of_start (after_ordered reached.ordered calls) found resting free moment once

/-- A sprite whose program is traded away in the course of its run, by hand and by the
detector, and edited where it is then. -/
theorem run_keeps_program_trade :
    let turn := Block.plain ⟨⟨1⟩, .turnDegrees, [("degrees", ⟨.number, .number 90.0⟩)]⟩
    let remark := Block.plain ⟨⟨2⟩, .say,
      [("seconds", ⟨.number, .number 1.0⟩), ("text", ⟨.text, .text "Hi"⟩)]⟩
    let cat := { Sprite.new ⟨1⟩ "Cat" .origin with program := [turn, turn] }
    let dog := { Sprite.new ⟨2⟩ "Dog" .origin with program := [remark] }
    let session := begin .standard { Stage.ofSeed 0 with sprites := [cat, dog] }
      ⟨100.0, 50.0, 1000.0, none, []⟩
    let start : Call := .engine (.run ⟨1⟩ 0.0)
    let other : List Call := [1000.0, 2000.0, 3000.0, 4000.0, 5000.0].map fun now =>
      .engine (.advance now)
    let later : List Call := [.edit (.act (.swapPrograms ⟨1⟩ ⟨2⟩)), .engine (.advance 1000.0),
      .edit (.select ⟨2⟩), .edit (.program (.removeBlock 1)), .engine (.advance 2000.0),
      .detector (.start [⟨1⟩, ⟨2⟩] 2000.0), .detector (.scan 2100.0), .engine (.advance 3000.0),
      .edit (.program (.addBlock remark)), .engine (.advance 4000.0), .engine (.advance 5000.0)]
    session.heard ⟨1⟩ (start :: later) = session.heard ⟨1⟩ (start :: other) ∧
      ((session.engineTrace (start :: later)).about ⟨1⟩).startedBlocks = [turn, turn] := by
  intro turn remark cat dog session start other later
  have reached : session.Reached := ⟨_, _, _, [], rfl⟩
  have found : session.stage.sprite? ⟨1⟩ = some cat := rfl
  have blind : ∀ call ∈ later, call.IsBlind := by
    simp [later, Call.IsBlind, Stage.Edit.IsBlind]
  have once : NeverRuns ⟨1⟩ later := by simp [NeverRuns, later]
  have same : besides other = besides later := rfl
  have keeps := run_keeps_program reached found rfl rfl 0.0 blind once same
  refine ⟨keeps.1, keeps.2.1.whole ?_ ?_ ?_⟩
  · decide +kernel
  · decide +kernel
  · decide +kernel

end Session

end SpriteScript
