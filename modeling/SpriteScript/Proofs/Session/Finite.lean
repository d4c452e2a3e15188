import SpriteScript.Proofs.Engine.Finite
import SpriteScript.Proofs.Session.Basic

namespace SpriteScript

/-! The places and rotations that an engine gives to sprites in a session. They are finite,
except in the middle of a turn whose width is not. -/

theorem Trace.IsNameless.movesFinitely {trace : Trace} (nameless : trace.IsNameless) :
    ∀ action ∈ trace.actions, action.MovesFinitely := by
  intro action member point poses
  have none : action.sprite? = none := nameless _ (Trace.mem_actions.mp member)
  cases action with
  | setPosition => cases none
  | _ => cases poses

namespace Session

def Call.IsFinite : Call → Prop
  | .engine call => call.IsTimed
  | .detector _ => True
  | .edit made => made.MovesFinitely

/-- Whether a call samples a turn of a sprite that is too wide, before its end. -/
def OverflowsAt (session : Session) (id : SpriteId) (call : Call) : Prop :=
  ∃ now run tween, call = .engine (.advance now) ∧ session.engine.runOf? id = some run ∧
    run.wait = .animating tween ∧ tween.motion.IsTooWide ∧ tween.isDone now = false

structure IsSound (session : Session) : Prop where
  engine : session.engine.IsSound
  stage : session.stage.IsSteady

variable {session : Session}

theorem isSound_begin {settings : Settings} {stage : Stage} (detector : Detector Float)
    (valid : settings.validate = .ok ()) (steady : stage.IsSteady) :
    (begin settings stage detector).IsSound :=
  ⟨⟨.nil, Settings.isMeasured_of_valid valid, nofun⟩, steady⟩

theorem posed_of_sound (sound : session.IsSound) {call : Call} (finite : call.IsFinite)
    {id : SpriteId} {pose : Pose Float32}
    (posed : .acted (pose.toAction id) ∈ session.told call) :
    pose.isFinite = true ↔ ¬session.OverflowsAt id call := by
  cases call with
  | engine call =>
      rw [sound.engine.pose_isFinite_iff finite posed]
      simp only [OverflowsAt, Call.engine.injEq]
  | detector | edit => cases posed

theorem IsSound.perform (sound : session.IsSound) {call : Call} (finite : call.IsFinite) :
    (session.perform call).IsSound := by
  cases call with
  | engine call =>
      refine ⟨sound.engine.perform sound.stage finite, ?_⟩
      simp only [Session.perform]
      rw [(Engine.perform_stage ..).1]
      exact sound.stage.replay (sound.engine.movesFinitely finite)
  | detector call =>
      rcases session.detector.perform_stage session.stage call with ⟨replayed, nameless⟩
      refine ⟨sound.engine, ?_⟩
      simp only [Session.perform]
      rw [replayed]
      exact sound.stage.replay nameless.movesFinitely
  | edit edit => exact ⟨sound.engine, sound.stage.edit finite⟩

/-- Whatever calls come, and in whatever order: the engine gives finite places and rotations to
sprites, except in the middle of a turn that is too wide, and a block that is started and whose
target is not finite ends its run with a failure. -/
theorem poses_isFinite {settings : Settings} {stage : Stage} (detector : Detector Float)
    (valid : settings.validate = .ok ())
    (steady : ∀ sprite ∈ stage.sprites, sprite.position.isFinite = true)
    {calls : List Call} {call : Call} (finite : ∀ other ∈ calls ++ [call], other.IsFinite) :
    let session := (begin settings stage detector).after calls
    (∀ id (pose : Pose Float32), .acted (pose.toAction id) ∈ session.told call →
      (pose.isFinite = true ↔ ¬session.OverflowsAt id call)) ∧
    (∀ id sprite block motion, Event.blockStarted id block ∈ session.told call →
      session.stage.sprite? id = some sprite → block.motion? sprite.stance = some motion →
        motion.target.isFinite = false →
          .runFailed id (.unreachableTarget id block.label) ∈ session.told call ∧
            (session.perform call).engine.runOf? id = none) := by
  intro session
  rcases List.forall_mem_append.mp finite with ⟨earlier, last⟩
  have begun := isSound_begin detector valid steady
  have sound : session.IsSound :=
    after_of_perform (motive := IsSound) (fun sound finite => sound.perform finite) begun earlier
  have callFinite := List.forall_mem_singleton.mp last
  refine ⟨fun id pose posed => posed_of_sound sound callFinite posed, ?_⟩
  intro id sprite block motion started found asked beyond
  cases call with
  | engine call =>
      have handling := Engine.perform_handling sound.engine.ordered session.stage call id
      have fails := handling.of_unreachable
        (List.mem_filter.mpr ⟨started, beq_self_eq_true _⟩) found asked beyond
      exact ⟨(List.mem_filter.mp fails.1).1, fails.2⟩
  | detector | edit => cases started

/-- A quarter turn that is sampled half way through its time. -/
theorem poses_isFinite_turn :
    let turn := Block.plain ⟨⟨1⟩, .turnDegrees, [("degrees", ⟨.number, .number 90.0⟩)]⟩
    let stage := { Stage.ofSeed 0 with
      sprites := [{ Sprite.new ⟨1⟩ "Cat" .origin with program := [turn] }] }
    let session := (begin .standard stage ⟨100.0, 40.0, 100.0, none, []⟩).after
      [.engine (.run ⟨1⟩ 0.0)]
    .acted (Pose.toAction (.rotation 78.75) ⟨1⟩) ∈ session.told (.engine (.advance 150.0)) ∧
      ¬session.OverflowsAt ⟨1⟩ (.engine (.advance 150.0)) := by
  intro turn stage session
  have valid : Settings.standard.validate = .ok () := by decide +kernel
  have steady : ∀ sprite ∈ stage.sprites, sprite.position.isFinite = true := by decide +kernel
  have finite : ∀ other ∈ [Call.engine (.run ⟨1⟩ 0.0)] ++ [.engine (.advance 150.0)],
      other.IsFinite := by
    simp only [List.cons_append, List.nil_append, List.forall_mem_cons, List.not_mem_nil,
      IsEmpty.forall_iff, implies_true, and_true, Call.IsFinite, Engine.Call.IsTimed]
    decide +kernel
  have posed : .acted (Pose.toAction (.rotation 78.75) ⟨1⟩) ∈
      session.told (.engine (.advance 150.0)) :=
    Trace.mem_actions.mp (by decide +kernel)
  have holds := (poses_isFinite ⟨100.0, 40.0, 100.0, none, []⟩ valid steady finite).1 _ _ posed
  exact ⟨posed, holds.mp (by decide +kernel)⟩

/-- A turn between finite rotations whose width is rounded up to infinity. The sprite is given
an infinite rotation half way through its time, and the run does not fail. -/
theorem turn_overflows :
    let turn := Block.plain
      ⟨⟨1⟩, .turnDegrees, [("degrees", ⟨.number, .number 3.4028234663852886e38⟩)]⟩
    let sprite := { Sprite.new ⟨1⟩ "Cat" .origin with
      rotation := -3.0423614405477506e31, program := [turn] }
    let session := begin .standard { Stage.ofSeed 0 with sprites := [sprite] }
      ⟨100.0, 40.0, 100.0, none, []⟩
    let calls : List Call := [.engine (.run ⟨1⟩ 0.0), .engine (.advance 150.0)]
    let rotations := (session.engineTrace calls).filterMap Event.pose?
    Settings.standard.validate = .ok () ∧ sprite.position.isFinite = true ∧
      sprite.rotation.isFinite = true ∧ (∀ call ∈ calls, call.IsFinite) ∧
      rotations.map Pose.isFinite = [false] ∧
      (session.engineTrace calls).hasFailure ⟨1⟩ = false := by
  intro turn sprite session calls rotations
  refine ⟨by decide +kernel, by decide +kernel, by decide +kernel, ?_, by decide +kernel⟩
  simp only [calls, List.forall_mem_cons, List.not_mem_nil, IsEmpty.forall_iff, implies_true,
    and_true, Call.IsFinite, Engine.Call.IsTimed]
  decide +kernel

end Session

end SpriteScript
