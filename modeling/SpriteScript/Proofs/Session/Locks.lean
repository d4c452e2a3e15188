import SpriteScript.Proofs.Detector.Locks
import SpriteScript.Proofs.Session.Basic

namespace SpriteScript.Session

/-! The locks of the stage and the releases that the detector has pending stay the same
throughout a session. -/

def Call.KeepsLocks : Call → Prop
  | .edit made => made.KeepsLocks
  | _ => True

/-- Whether the locks of the stage are those that the detector is to release and the
foreign ones. -/
def Holds (session : Session) (foreign : List LockKey) : Prop :=
  session.detector.Holds session.stage foreign

variable {session : Session} {foreign : List LockKey}

theorem perform_holds (holds : session.Holds foreign) {call : Call} (keeps : call.KeepsLocks) :
    (session.perform call).Holds foreign := by
  cases call with
  | engine call =>
      have done := session.engine.perform_stage session.stage call
      refine Detector.Holds.of_locks holds ?_ ?_
      · simp only [perform]
        rw [done.1, Stage.replay_locks _ done.2.noLock]
      · simp only [perform]
        rw [done.1, Stage.spriteIds_replay]
        exact fun id member => member
  | detector call => exact (session.detector.perform_exchange session.stage call).holds holds
  | edit edit =>
      exact Detector.Holds.of_locks holds
        (session.stage.edit_locks (Stage.Edit.KeepsLocks.spares keeps))
        fun id member => Stage.mem_spriteIds_edit keeps member

theorem after_holds (holds : session.Holds foreign) {calls : List Call}
    (keep : ∀ call ∈ calls, call.KeepsLocks) : (session.after calls).Holds foreign :=
  after_of_perform (motive := fun session => session.Holds foreign)
    (fun holds keeps => perform_holds holds keeps) holds keep

/-- On a stage without a lock at first, whose locks one detector alone takes and
releases: whatever is called, the locks that the detector is to release are those of the
stage, each of them once, and each of them that of two different sprites in order. -/
theorem pending_eq_locks {settings : Settings} {detector : Detector Float}
    (made : Detector.ofSettings settings = .ok detector) (engineSettings : Settings)
    (stage : Stage) (free : stage.locks = []) (calls : List Call)
    (keep : ∀ call ∈ calls, call.KeepsLocks) :
    let last := (begin engineSettings stage detector).after calls
    let keys := last.detector.pending.map Prod.snd
    keys.Nodup ∧ (∀ key, key ∈ keys ↔ key ∈ last.stage.locks) ∧
      ∀ key ∈ keys, key.first.number < key.second.number ∧
        (last.stage.sprite? key.first).isSome ∧ (last.stage.sprite? key.second).isSome := by
  have first : (begin engineSettings stage detector).Holds [] :=
    free ▸ Detector.holds_ofSettings made stage
  have holds := after_holds first keep
  refine ⟨holds.once, ?_, ?_⟩
  · intro key
    rw [holds.mem_locks, or_iff_left List.not_mem_nil]
    rfl
  intro key member
  rcases holds.isAmong key member with ⟨ordered, hasFirst, hasSecond⟩
  exact ⟨ordered, Stage.mem_spriteIds_iff.mp hasFirst, Stage.mem_spriteIds_iff.mp hasSecond⟩

/-- Two sprites at one place, one of them observed twice; the detector is stopped and
started again while they are locked. -/
theorem pending_eq_locks_restart :
    let cat := Sprite.new ⟨1⟩ "Cat" .origin
    let dog := Sprite.new ⟨2⟩ "Dog" .origin
    let detector : Detector Float := ⟨100.0, 50.0, 1000.0, none, []⟩
    let first := begin .standard { Stage.ofSeed 0 with sprites := [cat, dog] } detector
    let calls : List Call := [.detector (.start [⟨2⟩, ⟨1⟩, ⟨2⟩, ⟨7⟩] 0.0),
      .detector (.advance 100.0), .engine (.run ⟨1⟩ 110.0), .detector .stop,
      .detector (.advance 200.0), .edit (.act (.setPosition ⟨1⟩ ⟨80.0, 0.0⟩)),
      .detector (.start [⟨1⟩, ⟨2⟩] 250.0), .detector (.scan 300.0)]
    let last := first.after calls
    (last.detector.pending.map Prod.snd).Nodup ∧ ⟨⟨1⟩, ⟨2⟩⟩ ∈ last.stage.locks := by
  intro cat dog detector first calls last
  have valid : Settings.standard.validate = .ok () := by decide +kernel
  have agree := pending_eq_locks (Detector.ofSettings_of_valid valid) .standard
    { Stage.ofSeed 0 with sprites := [cat, dog] } rfl calls
    (by simp [calls, Call.KeepsLocks, Stage.Edit.KeepsLocks, Action.isOfLock])
  have pending : ⟨⟨1⟩, ⟨2⟩⟩ ∈ last.detector.pending.map Prod.snd := by decide +kernel
  exact ⟨agree.1, (agree.2.1 _).mp pending⟩

end SpriteScript.Session
