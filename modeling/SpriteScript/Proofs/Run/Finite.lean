import SpriteScript.Proofs.Engine.Leg
import SpriteScript.Proofs.Motion.Finite
import SpriteScript.Proofs.Settings.Valid
import SpriteScript.Proofs.Stage.Finite

namespace SpriteScript

/-! What a run does to the place and the rotation of its sprite. It poses the sprite only as
its animation says, and an animation starts only if it leads to a finite target. -/

open Number

def Event.pose? (event : Event) : Option (Pose Float32) := event.action?.bind Action.pose?

theorem Pose.pose?_toAction (pose : Pose Float32) (id : SpriteId) :
    (pose.toAction id).pose? = some pose := by
  cases pose <;> rfl

theorem Settings.IsMeasured.duration_isFinite {settings : Settings}
    (measured : settings.IsMeasured) {kind : BlockKind} {duration : Float}
    (timed : settings.duration? kind = some duration) : IsFinite duration := by
  cases kind <;> cases timed
  · exact measured.moveDuration.1
  · exact measured.turnDuration.1
  · exact measured.glideDuration.1

namespace Run

structure Scene.IsSound (scene : Scene) : Prop where
  settings : scene.settings.IsMeasured
  now : IsFinite scene.now
  position : ∀ sprite, scene.sprite? = some sprite → sprite.position.isFinite = true

def IsSound (run : Run) : Prop := ∀ tween, run.wait = .animating tween → tween.IsSound

variable {scene : Scene} {block : Block}

/-! ## The start of an animation -/

theorem isSound_of_motion? {stance : Stance} {motion : Motion Float32}
    (position : stance.position.isFinite = true) (asked : block.motion? stance = some motion)
    (reachable : motion.target.isFinite = true) : motion.IsSound := by
  rw [Block.motion?] at asked
  split at asked
  · split at asked
    · cases asked
      exact .slide position reachable
    · cases asked
  · split at asked
    · cases asked
      exact .spin reachable
    · cases asked
  · split at asked
    · cases asked
      exact .slide position reachable
    · cases asked
  all_goals cases asked

theorem Opening.isSound {wait : Except Fault Wait} {trace : Trace} (sound : scene.IsSound)
    (opening : Opening scene block (wait, trace)) {tween : Tween Float Float32}
    (waits : wait = .ok (.animating tween)) : tween.IsSound := by
  cases opening with
  | moving sprite motion duration found asked reachable timed =>
      cases waits
      have position : sprite.stance.position.isFinite = true := sound.position sprite found
      exact ⟨⟨sound.now, sound.settings.duration_isFinite timed⟩,
        isSound_of_motion? position asked reachable⟩
  | idle | unreachable | speaking | spoken => cases waits

theorem Starting.isSound {frames : List Frame} {started : Started} (sound : scene.IsSound)
    (starting : Starting scene frames block started) {tween : Tween Float Float32}
    (waits : started.wait = .ok (.animating tween)) : tween.IsSound := by
  induction starting with
  | alone frames block wait trace single opening =>
      exact opening.isSound sound waits
  | entered frames head first rest inner going starting induction => exact induction waits

theorem Driving.isSound {run : Run} {driven : Driven} (driving : Driving run scene driven)
    (sceneSound : scene.IsSound) (sound : run.IsSound) : driven.run.IsSound := by
  intro tween waits
  cases driving with
  | started block frames started wait free waited found starting startedWaits =>
      cases waits
      exact starting.isSound sceneSound startedWaits
  | sampled animated free moving =>
      dsimp only at waits
      split at waits
      · cases waits
      · exact sound tween waits
  | waiting => exact sound tween waits
  | cancelled | failed | passesDone | programDone | cleared => cases waits

/-! ## Poses -/

theorem Opening.pose?_eq_none {wait : Except Fault Wait} {trace : Trace}
    (opening : Opening scene block (wait, trace)) : ∀ event ∈ trace, event.pose? = none := by
  intro event member
  cases opening with
  | idle _ told =>
      have skip := told event member
      cases event <;> first | rfl | cases skip
  | moving | unreachable => cases member
  | speaking bubble =>
      rw [List.mem_singleton.mp member]
      cases bubble <;> rfl
  | spoken bubble =>
      simp only [List.mem_cons, List.not_mem_nil, or_false] at member
      rcases member with rfl | rfl <;> cases bubble <;> rfl

theorem Starting.pose?_eq_none {frames : List Frame} {started : Started}
    (starting : Starting scene frames block started) :
    ∀ event ∈ started.trace, event.pose? = none := by
  induction starting with
  | alone frames block wait trace single opening =>
      exact List.forall_mem_cons.mpr ⟨rfl, opening.pose?_eq_none⟩
  | entered frames head first rest inner going starting induction =>
      exact List.forall_mem_cons.mpr ⟨rfl, induction⟩

theorem mem_abandon {run : Run} {id : SpriteId} {event : Event}
    (member : event ∈ run.abandon id) : ∃ bubble : Bubble, event = .acted (bubble.clear id) := by
  rw [abandon] at member
  split at member
  · exact ⟨_, List.mem_singleton.mp member⟩
  · cases member

theorem pose?_clear (bubble : Bubble) (id : SpriteId) :
    (Event.acted (bubble.clear id)).pose? = none := by
  cases bubble <;> rfl

/-- A run that moves on poses its sprite only as its animation says. -/
theorem Driving.pose?_eq {run : Run} {driven : Driven} (driving : Driving run scene driven)
    {event : Event} (member : event ∈ driven.trace) {pose : Pose Float32}
    (poses : event.pose? = some pose) :
    ∃ tween, run.wait = .animating tween ∧ pose = tween.sample scene.now := by
  have silent (quiet : event.pose? = none) :
      ∃ tween, run.wait = .animating tween ∧ pose = tween.sample scene.now := by
    rw [quiet] at poses
    cases poses
  cases driving with
  | sampled tween free moving =>
      rw [List.mem_singleton.mp member] at poses
      have posed := ((tween.sample scene.now).pose?_toAction scene.id).symm.trans poses
      exact ⟨tween, moving, (Option.some.inj posed).symm⟩
  | started block frames started wait free waited found starting waits =>
      exact silent (starting.pose?_eq_none event member)
  | failed block frames started fault free waited found starting fails =>
      exact silent (starting.pose?_eq_none event member)
  | cancelled marked =>
      rcases List.mem_cons.mp member with rfl | cleared
      · exact silent rfl
      · rcases mem_abandon cleared with ⟨bubble, rfl⟩
        exact silent (pose?_clear bubble scene.id)
  | cleared bubble =>
      rw [List.mem_singleton.mp member] at silent
      exact silent (pose?_clear bubble scene.id)
  | passesDone | programDone | waiting => cases member

/-! ## Targets out of reach -/

theorem Opening.of_unreachable {wait : Except Fault Wait} {trace : Trace}
    (opening : Opening scene block (wait, trace)) {sprite : Sprite} {motion : Motion Float32}
    (found : scene.sprite? = some sprite) (asked : block.motion? sprite.stance = some motion)
    (beyond : motion.target.isFinite = false) :
    wait = .error (.unreachableTarget scene.id block.label) := by
  have silent := Block.speech?_of_motion? asked
  cases opening with
  | idle _ told _ still =>
      rw [still sprite found] at asked
      cases asked
  | moving other same duration isOther otherAsked reachable =>
      rw [found] at isOther
      cases isOther
      rw [asked] at otherAsked
      cases otherAsked
      rw [beyond] at reachable
      cases reachable
  | unreachable => rfl
  | speaking bubble seconds duration speaks =>
      rw [silent] at speaks
      cases speaks
  | spoken bubble seconds duration speaks =>
      rw [silent] at speaks
      cases speaks

theorem Opening.not_started {wait : Except Fault Wait} {trace : Trace}
    (opening : Opening scene block (wait, trace)) (other : Block) :
    .blockStarted scene.id other ∉ trace := by
  intro member
  cases opening with
  | idle _ told => cases told _ member
  | moving | unreachable => cases member
  | speaking | spoken =>
      simp only [List.mem_cons, List.not_mem_nil, or_false, reduceCtorEq] at member

theorem motion?_of_rounds (going : 0 < block.rounds) (stance : Stance) :
    block.motion? stance = none := by
  rw [Block.motion?, Block.kind_of_rounds going]

theorem Starting.of_unreachable {frames : List Frame} {started : Started}
    (starting : Starting scene frames block started) {moving : Block}
    (member : .blockStarted scene.id moving ∈ started.trace) {sprite : Sprite}
    {motion : Motion Float32} (found : scene.sprite? = some sprite)
    (asked : moving.motion? sprite.stance = some motion)
    (beyond : motion.target.isFinite = false) :
    started.wait = .error (.unreachableTarget scene.id moving.label) := by
  induction starting with
  | alone frames block wait trace single opening =>
      rcases List.mem_cons.mp member with same | told
      · cases same
        exact opening.of_unreachable found asked beyond
      · exact absurd told (opening.not_started moving)
  | entered frames head first rest inner going starting induction =>
      rcases List.mem_cons.mp member with same | told
      · cases same
        rw [motion?_of_rounds going] at asked
        cases asked
      · exact induction told

theorem Driving.of_unreachable {run : Run} {driven : Driven} (driving : Driving run scene driven)
    {moving : Block} (member : .blockStarted scene.id moving ∈ driven.trace) {sprite : Sprite}
    {motion : Motion Float32} (found : scene.sprite? = some sprite)
    (asked : moving.motion? sprite.stance = some motion)
    (beyond : motion.target.isFinite = false) :
    driven.status = .failed (.unreachableTarget scene.id moving.label) := by
  cases driving with
  | started block frames started wait free waited next starting waits =>
      rw [starting.of_unreachable member found asked beyond] at waits
      cases waits
  | failed block frames started fault free waited next starting fails =>
      rw [starting.of_unreachable member found asked beyond] at fails
      cases fails
      rfl
  | sampled tween =>
      have posed := List.mem_singleton.mp member
      cases pose : tween.sample scene.now <;> rw [pose] at posed <;> cases posed
  | cleared bubble =>
      have cleared := List.mem_singleton.mp member
      cases bubble <;> cases cleared
  | cancelled marked =>
      rcases List.mem_cons.mp member with told | cleared
      · cases told
      · rcases mem_abandon cleared with ⟨bubble, same⟩
        cases bubble <;> cases same
  | passesDone | programDone | waiting => cases member

end Run

end SpriteScript
