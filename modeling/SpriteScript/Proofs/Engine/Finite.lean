import SpriteScript.Proofs.Engine.Share
import SpriteScript.Proofs.Run.Finite

namespace SpriteScript

/-! The places and rotations that an engine gives to sprites. A sprite is posed only by the
animation of its own run, in an advance, and all animations lead from a finite place to a
finite target. -/

open Number

/-! ## One leg -/

namespace Run

variable {run : Run} {scene : Scene}

theorem mem_leg {event : Event} (member : event ∈ (run.leg scene).trace) :
    event ∈ (run.drive scene).trace ∨ (∃ fault, event = .runFailed scene.id fault) ∨
      event ∈ Engine.finish scene.id := by
  have ofReport (told : event ∈ run.report scene) :
      event ∈ (run.drive scene).trace ∨ ∃ fault, event = .runFailed scene.id fault := by
    rcases List.mem_append.mp told with driven | failed
    · exact .inl driven
    · refine .inr ?_
      cases status : (run.drive scene).status with
      | failed fault =>
          rw [status] at failed
          exact ⟨fault, List.mem_singleton.mp failed⟩
      | going | ended =>
          rw [status] at failed
          cases failed
  rw [leg] at member
  split at member
  · exact (ofReport member).imp_right .inl
  · rcases List.mem_append.mp member with told | finished
    · exact (ofReport told).imp_right .inl
    · exact .inr (.inr finished)

theorem leg_pose? {event : Event} (member : event ∈ (run.leg scene).trace)
    {pose : Pose Float32} (poses : event.pose? = some pose) :
    ∃ tween, run.wait = .animating tween ∧ pose = tween.sample scene.now := by
  rcases mem_leg member with driven | ⟨fault, rfl⟩ | finished
  · exact (run.drive_driving scene).pose?_eq driven poses
  · cases poses
  · simp only [Engine.finish, List.mem_cons, List.not_mem_nil, or_false] at finished
    rcases finished with rfl | rfl <;> cases poses

theorem leg_of_unreachable {moving : Block}
    (member : .blockStarted scene.id moving ∈ (run.leg scene).trace) {sprite : Sprite}
    {motion : Motion Float32} (found : scene.sprite? = some sprite)
    (asked : moving.motion? sprite.stance = some motion)
    (beyond : motion.target.isFinite = false) :
    .runFailed scene.id (.unreachableTarget scene.id moving.label) ∈ (run.leg scene).trace ∧
      (run.leg scene).run? = none := by
  have driven : .blockStarted scene.id moving ∈ (run.drive scene).trace := by
    rcases mem_leg member with driven | ⟨fault, same⟩ | finished
    · exact driven
    · cases same
    · simp [Engine.finish] at finished
  have fails := (run.drive_driving scene).of_unreachable driven found asked beyond
  have notGoing : (run.drive scene).status ≠ .going := by simp [fails]
  rw [leg_of_not_going notGoing, fails]
  simp [Engine.failure]

theorem leg_isSound (sceneSound : scene.IsSound) (sound : run.IsSound) {next : Run}
    (left : (run.leg scene).run? = some next) : next.IsSound := by
  rw [leg] at left
  split at left
  · cases left
    exact (run.drive_driving scene).isSound sceneSound sound
  · cases left

end Run

namespace Engine

variable {engine : Engine} {stage : Stage} {id : SpriteId}

/-! ## One call -/

def firstLeg (settings : Settings) (id : SpriteId) (sprite : Sprite) (now : Float) : Run.Leg :=
  (Run.ofProgram sprite.program).leg ⟨settings, id, some { sprite with isRunning := true }, now⟩

/-- What a call is to one sprite: what is told of the sprite, and what is left of its run. Only
an advance gives a leg to a run that is there, and only a call for the sprite itself launches
one. -/
inductive Handling (engine : Engine) (stage : Stage) (id : SpriteId) :
    Call → Trace → Option Run → Prop
  | untouched (call : Call) : Handling engine stage id call [] (engine.runOf? id)
  | marked (call : Call) (run : Run) (found : engine.runOf? id = some run) :
      Handling engine stage id call [] (some run.cancel)
  | driven (now : Float) (run : Run) (leg : Run.Leg) (found : engine.runOf? id = some run)
      (drive : leg = run.leg (scene engine.settings stage id now)) :
      Handling engine stage id (.advance now) (leg.trace.about id) leg.run?
  | launched (now : Float) (sprite : Sprite) (leg : Run.Leg)
      (found : stage.sprite? id = some sprite)
      (drive : leg = firstLeg engine.settings id sprite now) :
      Handling engine stage id (.run id now) (opening id sprite ++ leg.trace.about id) leg.run?

theorem perform_handling (ordered : engine.Ordered) (stage : Stage) (call : Call)
    (id : SpriteId) :
    Handling engine stage id call ((engine.perform stage call).trace.about id)
      ((engine.perform stage call).actor.runOf? id) := by
  cases call with
  | run other now =>
      have launching := run_launching engine stage other now
      simp only [perform]
      by_cases same : id = other
      · subst same
        generalize engine.run stage id now = turn at launching
        cases launching with
        | missing => exact .untouched _
        | refused => exact .untouched _
        | launched sprite leg found resting filled free first =>
            have absent := isRunning_eq_false_iff.mp free
            rw [scene, sprite?_replay_opening found] at first
            rw [Trace.about_append, about_opening, runOf?_join absent, if_pos rfl]
            exact .launched now sprite leg found first
      · rcases launching.of_ne same with ⟨kept, silent⟩
        rw [kept, silent]
        exact .untouched _
  | advance now =>
      simp only [perform]
      cases found : engine.runOf? id with
      | none =>
          rcases advance_of_none stage now ordered found with ⟨silent, idle, -⟩
          rw [silent, idle, ← found]
          exact .untouched _
      | some run =>
          rcases advance_of_some stage now ordered found with ⟨told, left, -⟩
          rw [told, left]
          exact .driven now run _ found rfl
  | stop other =>
      have marks := engine.runOf?_stop other id
      simp only [perform, marks]
      cases found : engine.runOf? id with
      | none =>
          have untouched : Handling engine stage id (.stop other) [] _ := .untouched _
          rwa [found] at untouched
      | some run =>
          by_cases named : id = other
          · rw [Option.map_some, if_pos named]
            exact .marked _ run found
          · have untouched : Handling engine stage id (.stop other) [] _ := .untouched _
            rw [Option.map_some, if_neg named]
            rwa [found] at untouched
  | stopAll =>
      simp only [perform, runOf?_stopAll]
      cases found : engine.runOf? id with
      | none =>
          have untouched : Handling engine stage id .stopAll [] _ := .untouched _
          rwa [found] at untouched
      | some run => exact .marked _ run found

theorem Handling.pose? {call : Call} {trace : Trace} {run? : Option Run}
    (handling : Handling engine stage id call trace run?) {event : Event}
    (member : event ∈ trace) {pose : Pose Float32} (poses : event.pose? = some pose) :
    ∃ now run tween, call = .advance now ∧ engine.runOf? id = some run ∧
      run.wait = .animating tween ∧ pose = tween.sample now := by
  cases handling with
  | untouched | marked => cases member
  | driven now run leg found drive =>
      rw [drive] at member
      rcases Run.leg_pose? (List.mem_filter.mp member).1 poses with ⟨tween, moving, same⟩
      exact ⟨now, run, tween, rfl, found, moving, same⟩
  | launched now sprite leg found drive =>
      rcases List.mem_append.mp member with opened | driven
      · simp only [opening, List.mem_cons, List.not_mem_nil, or_false] at opened
        rcases opened with rfl | rfl <;> cases poses
      · rw [drive] at driven
        rcases Run.leg_pose? (List.mem_filter.mp driven).1 poses with ⟨tween, moving, -⟩
        cases moving

theorem perform_pose (ordered : engine.Ordered) {call : Call} {pose : Pose Float32}
    (posed : .acted (pose.toAction id) ∈ (engine.perform stage call).trace) :
    ∃ now run tween, call = .advance now ∧ engine.runOf? id = some run ∧
      run.wait = .animating tween ∧ pose = tween.sample now := by
  have named : (Event.acted (pose.toAction id)).sprite? = some id := by cases pose <;> rfl
  have member : .acted (pose.toAction id) ∈ (engine.perform stage call).trace.about id :=
    List.mem_filter.mpr ⟨posed, by rw [named, beq_self_eq_true]⟩
  exact (perform_handling ordered stage call id).pose? member (pose.pose?_toAction id)

theorem Handling.of_unreachable {call : Call} {trace : Trace} {run? : Option Run}
    (handling : Handling engine stage id call trace run?) {moving : Block}
    (member : .blockStarted id moving ∈ trace) {sprite : Sprite} {motion : Motion Float32}
    (found : stage.sprite? id = some sprite)
    (asked : moving.motion? sprite.stance = some motion)
    (beyond : motion.target.isFinite = false) :
    .runFailed id (.unreachableTarget id moving.label) ∈ trace ∧ run? = none := by
  have within {leg : Run.Leg} {run : Run} {scene : Run.Scene} (drive : leg = run.leg scene)
      (named : scene.id = id) (seen : ∃ other, scene.sprite? = some other ∧
        other.stance = sprite.stance)
      (told : .blockStarted id moving ∈ leg.trace.about id) :
      .runFailed id (.unreachableTarget id moving.label) ∈ leg.trace.about id ∧
        leg.run? = none := by
    subst named
    rcases seen with ⟨other, isOther, same⟩
    rw [← same] at asked
    have fails := Run.leg_of_unreachable (drive ▸ (List.mem_filter.mp told).1) isOther asked beyond
    rw [drive]
    exact ⟨List.mem_filter.mpr ⟨fails.1, beq_self_eq_true _⟩, fails.2⟩
  cases handling with
  | untouched | marked => cases member
  | driven now run leg foundRun drive => exact within drive rfl ⟨sprite, found, rfl⟩ member
  | launched now other leg isOther drive =>
      rw [found] at isOther
      cases isOther
      rcases List.mem_append.mp member with opened | told
      · simp [opening] at opened
      · have fails := within drive rfl ⟨_, rfl, rfl⟩ told
        exact ⟨List.mem_append_right _ fails.1, fails.2⟩

/-! ## Soundness -/

def Call.IsTimed : Call → Prop
  | .run _ now | .advance now => now.isFinite = true
  | .stop _ | .stopAll => True

structure IsSound (engine : Engine) : Prop where
  ordered : engine.Ordered
  settings : engine.settings.IsMeasured
  runs : ∀ id run, engine.runOf? id = some run → run.IsSound

theorem Handling.isSound {call : Call} {trace : Trace} {run? : Option Run}
    (handling : Handling engine stage id call trace run?) (sound : engine.IsSound)
    (steady : stage.IsSteady) (timed : call.IsTimed) {next : Run} (left : run? = some next) :
    next.IsSound := by
  cases handling with
  | untouched => exact sound.runs id next left
  | marked _ run found =>
      cases left
      exact sound.runs id run found
  | driven now run leg found drive =>
      rw [drive] at left
      have sceneSound : (scene engine.settings stage id now).IsSound :=
        ⟨sound.settings, timed, fun sprite => steady.of_sprite?⟩
      exact Run.leg_isSound sceneSound (sound.runs id run found) left
  | launched now sprite leg found drive =>
      rw [drive, firstLeg] at left
      have sceneSound : Run.Scene.IsSound
          ⟨engine.settings, id, some { sprite with isRunning := true }, now⟩ := by
        have position : sprite.position.isFinite = true := steady.of_sprite? found
        refine ⟨sound.settings, timed, fun running same => ?_⟩
        rw [← Option.some.inj same]
        exact position
      have begins : (Run.ofProgram sprite.program).IsSound := by
        intro tween moving
        cases moving
      exact Run.leg_isSound sceneSound begins left

theorem IsSound.perform (sound : engine.IsSound) (steady : stage.IsSteady) {call : Call}
    (timed : call.IsTimed) : (engine.perform stage call).actor.IsSound := by
  refine ⟨perform_ordered sound.ordered stage call, ?_, ?_⟩
  · rw [perform_settings]
    exact sound.settings
  · intro id run found
    exact (perform_handling sound.ordered stage call id).isSound sound steady timed found

theorem IsSound.pose_isFinite_iff (sound : engine.IsSound) {call : Call} (timed : call.IsTimed)
    {id : SpriteId} {pose : Pose Float32}
    (posed : .acted (pose.toAction id) ∈ (engine.perform stage call).trace) :
    pose.isFinite = true ↔ ¬∃ now run tween, call = .advance now ∧ engine.runOf? id = some run ∧
      run.wait = .animating tween ∧ tween.motion.IsTooWide ∧ tween.isDone now = false := by
  rcases perform_pose sound.ordered posed with ⟨now, run, tween, rfl, found, moving, rfl⟩
  rw [(sound.runs id run found tween moving).sample_isFinite_iff timed]
  refine not_congr ⟨fun wide => ⟨now, run, tween, rfl, found, moving, wide⟩, ?_⟩
  rintro ⟨_, _, _, sameCall, sameRun, sameTween, wide⟩
  cases sameCall
  rw [found] at sameRun
  cases sameRun
  rw [moving] at sameTween
  cases sameTween
  exact wide

theorem IsSound.movesFinitely (sound : engine.IsSound) {call : Call} (timed : call.IsTimed) :
    ∀ action ∈ (engine.perform stage call).trace.actions, action.MovesFinitely := by
  intro action member point poses
  cases action with
  | setPosition id position =>
      cases poses
      have posed : .acted (Pose.toAction (.position point) id) ∈
          (engine.perform stage call).trace := Trace.mem_actions.mp member
      rcases perform_pose sound.ordered posed with ⟨now, run, tween, rfl, found, moving, same⟩
      exact (sound.runs id run found tween moving).position_isFinite timed same.symm
  | _ => cases poses

end Engine

end SpriteScript
