import SpriteScript.Proofs.Number.Order
import SpriteScript.Proofs.Session.Locks

namespace SpriteScript.Session

/-! A lock lasts for the cooldown. It is released by the first advance that reaches the
time of its release, and no trade of its sprites is made before. -/

def Call.time? : Call → Option Float
  | .detector call => call.time?
  | .engine _ | .edit _ => none

def times (calls : List Call) : List Float := calls.filterMap Call.time?

/-- Whether a session began with a new detector, which alone took and released locks. -/
def Guarded (session : Session) (settings : Settings) : Prop :=
  ∃ detector engineSettings stage calls, Detector.ofSettings settings = .ok detector ∧
    (∀ call ∈ calls, call.KeepsLocks) ∧
    session = (begin engineSettings stage detector).after calls

variable {session : Session} {foreign : List LockKey}

theorem perform_cooldown (session : Session) (call : Call) :
    (session.perform call).detector.cooldown = session.detector.cooldown := by
  cases call with
  | engine call => rfl
  | detector call => exact (session.detector.perform_exchange session.stage call).cooldown
  | edit edit => rfl

theorem after_cooldown (session : Session) (calls : List Call) :
    (session.after calls).detector.cooldown = session.detector.cooldown :=
  after_of_perform
    (motive := fun later => later.detector.cooldown = session.detector.cooldown)
    (fun same (_ : True) => (perform_cooldown ..).trans same) rfl fun _ _ => trivial

theorem Guarded.holds {settings : Settings} (guarded : session.Guarded settings) :
    ∃ foreign, session.Holds foreign := by
  rcases guarded with ⟨detector, engineSettings, stage, calls, made, keep, same⟩
  have first : (begin engineSettings stage detector).Holds stage.locks :=
    Detector.holds_ofSettings made stage
  rw [same]
  exact ⟨stage.locks, after_holds first keep⟩

theorem Guarded.cooldown {settings : Settings} (guarded : session.Guarded settings) :
    session.detector.cooldown = settings.cooldown := by
  rcases guarded with ⟨detector, engineSettings, stage, calls, made, _, same⟩
  rcases ok_of_bind made with ⟨_, _, returned⟩
  cases returned
  rw [same, after_cooldown]
  rfl

/-! ## A lock that is not due -/

theorem perform_mem_pending {due : Float} {key : LockKey}
    (member : (due, key) ∈ session.detector.pending) {call : Call}
    (early : ∀ now, call = .detector (.advance now) → ¬due ≤ now) :
    (due, key) ∈ (session.perform call).detector.pending := by
  cases call with
  | engine call => exact member
  | detector call =>
      refine (session.detector.perform_exchange session.stage call).mem_pending member ?_
      rintro ⟨now, isAdvance, expired⟩
      exact early now (congrArg Call.detector isAdvance) expired
  | edit edit => exact member

theorem after_mem_pending {due : Float} {key : LockKey}
    (member : (due, key) ∈ session.detector.pending) {calls : List Call}
    (early : ∀ now, .detector (.advance now) ∈ calls → ¬due ≤ now) :
    (due, key) ∈ (session.after calls).detector.pending := by
  refine after_of_perform (motive := fun session => (due, key) ∈ session.detector.pending)
    (fun member early => perform_mem_pending member early) member ?_
  intro call inCalls now isAdvance
  exact early now (isAdvance ▸ inCalls)

/-! ## The time of the release -/

theorem Guarded.mem_pending {settings : Settings} (guarded : session.Guarded settings)
    {taking : Detector.Call} {time : Float} (timed : taking.time? = some time) {key : LockKey}
    (trades : (session.detector.perform session.stage taking).trace.Trades key) :
    (time + settings.cooldown, key) ∈
      (session.perform (.detector taking)).detector.pending := by
  rcases guarded.holds with ⟨foreign, holds⟩
  have exchange := session.detector.perform_exchange session.stage taking
  rw [← guarded.cooldown]
  exact (exchange.of_trades holds trades).1 time timed

theorem unlock_iff (holds : session.Holds foreign) {due : Float} {key : LockKey}
    (member : (due, key) ∈ session.detector.pending) (next : Detector.Call) :
    .acted (.unlock key) ∈ (session.detector.perform session.stage next).trace ↔
      ∃ now, next = .advance now ∧ due ≤ now := by
  refine (session.detector.perform_exchange session.stage next).unlock_mem.trans ?_
  constructor
  · rintro ⟨other, sameKey, frees⟩
    rw [holds.due_unique sameKey member] at frees
    exact frees
  · intro frees
    exact ⟨due, member, frees⟩

theorem due_le_of_trades (holds : session.Holds foreign) {due : Float} {key : LockKey}
    (member : (due, key) ∈ session.detector.pending) {later : List Call}
    (keep : ∀ call ∈ later, call.KeepsLocks) {again : Detector.Call} {moment : Float}
    (timed : again.time? = some moment)
    (trades : ((session.after later).detector.perform (session.after later).stage
      again).trace.Trades key)
    (ascending : (times later ++ [moment]).IsChain (· ≤ ·)) : due ≤ moment := by
  by_cases early : ∀ now, .detector (.advance now) ∈ later → ¬due ≤ now
  · -- The lock is held until then, so the call itself releases it first.
    have exchange := (session.after later).detector.perform_exchange (session.after later).stage
      again
    rcases (exchange.of_trades (after_holds holds keep) trades).2 due
      (after_mem_pending member early) with ⟨now, isAdvance, reached⟩
    rw [isAdvance] at timed
    cases timed
    exact reached
  · -- An advance before has reached the time of the release.
    push Not at early
    rcases early with ⟨now, inLater, reached⟩
    have inTimes : now ∈ times later := List.mem_filterMap.mpr ⟨_, inLater, rfl⟩
    exact Number.le_trans reached (Number.le_of_isChain ascending inTimes)

/-- A detector takes a lock for a trade at some time; then anything goes on, but nobody
else takes or releases locks. Until an advance reaches the time of its release, the lock
is held; the next call releases it if it is such an advance, and then it is held only if
it is taken again. As long as times do not decrease, no trade of the same sprites is made
before that time. -/
theorem lock_lasts_for_cooldown {settings : Settings} (guarded : session.Guarded settings)
    {taking : Detector.Call} {time : Float} (timed : taking.time? = some time) {key : LockKey}
    (trades : (session.detector.perform session.stage taking).trace.Trades key)
    {later : List Call} (keep : ∀ call ∈ later, call.KeepsLocks) :
    let due := time + settings.cooldown
    let last := (session.perform (.detector taking)).after later
    ((∀ now, .detector (.advance now) ∈ later → ¬due ≤ now) →
        key ∈ last.stage.locks ∧
          ∀ next : Detector.Call, let turn := last.detector.perform last.stage next
            (.acted (.unlock key) ∈ turn.trace ↔ ∃ now, next = .advance now ∧ due ≤ now) ∧
              (.acted (.unlock key) ∈ turn.trace →
                (key ∈ turn.stage.locks ↔ turn.trace.Trades key))) ∧
      ∀ (again : Detector.Call) (moment : Float), again.time? = some moment →
        (last.detector.perform last.stage again).trace.Trades key →
          (times (.detector taking :: later ++ [.detector again])).IsChain (· ≤ ·) →
            due ≤ moment := by
  intro due last
  rcases guarded.holds with ⟨foreign, holds⟩
  have member : (due, key) ∈ (session.perform (.detector taking)).detector.pending :=
    guarded.mem_pending timed trades
  have takenHolds : (session.perform (.detector taking)).Holds foreign :=
    perform_holds holds trivial
  have lastHolds : last.Holds foreign := after_holds takenHolds keep
  constructor
  · intro early
    have pending : (due, key) ∈ last.detector.pending := after_mem_pending member early
    refine ⟨lastHolds.locked pending, ?_⟩
    intro next turn
    have exchange := last.detector.perform_exchange last.stage next
    exact ⟨unlock_iff lastHolds pending next, exchange.mem_locks⟩
  · intro again moment timedAgain tradesAgain ascending
    have split : times (.detector taking :: later ++ [.detector again]) =
        time :: (times later ++ [moment]) := by
      simp [times, Call.time?, timed, timedAgain]
    rw [split] at ascending
    exact due_le_of_trades takenHolds member keep timedAgain tradesAgain ascending.tail

/-- Two sprites at one place, which trade as often as they may; meanwhile the detector is
stopped and started again. -/
theorem lock_lasts_for_cooldown_restart :
    let cat := Sprite.new ⟨1⟩ "Cat" .origin
    let dog := Sprite.new ⟨2⟩ "Dog" .origin
    let detector : Detector Float := ⟨100.0, 50.0, 1000.0, none, []⟩
    let first := begin .standard { Stage.ofSeed 0 with sprites := [cat, dog] } detector
    let session := first.after [.detector (.start [⟨2⟩, ⟨1⟩] 0.0)]
    let later : List Call := [.detector .stop, .detector (.advance 600.0),
      .detector (.start [⟨1⟩, ⟨2⟩] 650.0), .detector (.advance 1099.0)]
    let last := (session.perform (.detector (.advance 100.0))).after later
    let turn := last.detector.perform last.stage (.advance 1100.0)
    ⟨⟨1⟩, ⟨2⟩⟩ ∈ last.stage.locks ∧ .acted (.unlock ⟨⟨1⟩, ⟨2⟩⟩) ∈ turn.trace ∧
      (100.0 : Float) + 1000.0 ≤ 1150.0 := by
  intro cat dog detector first session later last turn
  have valid : Settings.standard.validate = .ok () := by decide +kernel
  have guarded : session.Guarded .standard :=
    ⟨detector, _, _, _, Detector.ofSettings_of_valid valid, by simp [Call.KeepsLocks], rfl⟩
  have trades : (session.detector.perform session.stage (.advance 100.0)).trace.Trades
      ⟨⟨1⟩, ⟨2⟩⟩ :=
    ⟨⟨2⟩, ⟨1⟩, Trace.mem_actions.mp (by decide +kernel), by decide⟩
  have keep : ∀ call ∈ later, call.KeepsLocks := by simp [later, Call.KeepsLocks]
  have lasts := lock_lasts_for_cooldown guarded rfl trades keep
  have early : ∀ now, .detector (.advance now) ∈ later →
      ¬(100.0 : Float) + Settings.standard.cooldown ≤ now := by
    intro now member
    simp only [later, List.mem_cons, List.not_mem_nil, or_false, reduceCtorEq, false_or,
      Call.detector.injEq, Detector.Call.advance.injEq] at member
    rcases member with same | same
    · rw [same]
      decide +kernel
    · rw [same]
      decide +kernel
  have held := lasts.1 early
  refine ⟨held.1, (held.2 _).1.mpr ⟨_, rfl, by decide +kernel⟩, ?_⟩
  refine lasts.2 (.advance 1150.0) 1150.0 rfl ?_ (by decide +kernel)
  exact ⟨⟨1⟩, ⟨2⟩, Trace.mem_actions.mp (by decide +kernel), by decide⟩

end SpriteScript.Session
