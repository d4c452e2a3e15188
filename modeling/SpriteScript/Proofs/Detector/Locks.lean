import Mathlib.Data.List.Nodup
import SpriteScript.Proofs.Detector.Call
import SpriteScript.Proofs.Stage.Locks

namespace SpriteScript

/-! Locks and their release. The locks of a stage are those that a detector is to
release, each of them once, beside foreign ones that no detector took. -/

namespace LockKey

def IsAmong (key : LockKey) (ids : List SpriteId) : Prop :=
  key.first.number < key.second.number ∧ key.first ∈ ids ∧ key.second ∈ ids

theorem of_isAmong {left right : SpriteId} {ids : List SpriteId} (different : left ≠ right)
    (hasLeft : left ∈ ids) (hasRight : right ∈ ids) : (of left right).IsAmong ids := by
  have apart : left.number ≠ right.number := fun same => different (congrArg SpriteId.mk same)
  rw [of]
  split
  · next before => exact ⟨UInt32.lt_of_le_of_ne before apart, hasLeft, hasRight⟩
  · next after => exact ⟨UInt32.not_le.mp after, hasRight, hasLeft⟩

end LockKey

namespace Trace

def Trades (trace : Trace) (key : LockKey) : Prop :=
  ∃ left right, .acted (.swapPrograms left right) ∈ trace ∧ LockKey.of left right = key

theorem trades_append {left right : Trace} {key : LockKey} :
    Trades (left ++ right) key ↔ Trades left key ∨ Trades right key := by
  simp only [Trades, List.mem_append, or_and_right, exists_or]

end Trace

namespace Detector

variable {Time : Type}

def keys (detector : Detector Time) : List LockKey := detector.pending.map Prod.snd

theorem mem_keys {detector : Detector Time} {key : LockKey} :
    key ∈ detector.keys ↔ ∃ due, (due, key) ∈ detector.pending := by
  simp [keys]

/-- Whether the locks of a stage are those that a detector is to release and the
foreign ones, whatever sprites they name. -/
structure Tracks (detector : Detector Time) (stage : Stage) (foreign : List LockKey) : Prop where
  once : detector.keys.Nodup
  mem_locks : ∀ key, key ∈ stage.locks ↔ key ∈ detector.keys ∨ key ∈ foreign
  apart : ∀ key ∈ detector.keys, key ∉ foreign

structure Holds (detector : Detector Time) (stage : Stage) (foreign : List LockKey) : Prop where
  once : detector.keys.Nodup
  mem_locks : ∀ key, key ∈ stage.locks ↔ key ∈ detector.keys ∨ key ∈ foreign
  apart : ∀ key ∈ detector.keys, key ∉ foreign
  isAmong : ∀ key ∈ detector.keys, key.IsAmong stage.spriteIds

variable {detector : Detector Time} {stage next : Stage} {foreign : List LockKey}

theorem Holds.tracks (holds : detector.Holds stage foreign) : detector.Tracks stage foreign :=
  ⟨holds.once, holds.mem_locks, holds.apart⟩

theorem Holds.locked (holds : detector.Holds stage foreign) {due : Time} {key : LockKey}
    (member : (due, key) ∈ detector.pending) : key ∈ stage.locks :=
  (holds.mem_locks key).mpr (.inl (mem_keys.mpr ⟨due, member⟩))

theorem Tracks.of_pending {other : Detector Time} (tracks : detector.Tracks stage foreign)
    (pending : other.pending = detector.pending) (locks : next.locks = stage.locks) :
    other.Tracks next foreign := by
  have keys : other.keys = detector.keys := congrArg (List.map Prod.snd) pending
  exact ⟨keys ▸ tracks.once, keys ▸ locks ▸ tracks.mem_locks, keys ▸ tracks.apart⟩

theorem Holds.of_locks (holds : detector.Holds stage foreign) (locks : next.locks = stage.locks)
    (keeps : ∀ id ∈ stage.spriteIds, id ∈ next.spriteIds) : detector.Holds next foreign := by
  refine ⟨holds.once, ?_, holds.apart, ?_⟩
  · rw [locks]
    exact holds.mem_locks
  · intro key member
    rcases holds.isAmong key member with ⟨ordered, hasFirst, hasSecond⟩
    exact ⟨ordered, keeps _ hasFirst, keeps _ hasSecond⟩

theorem Tracks.due_unique (tracks : detector.Tracks stage foreign) {due other : Time}
    {key : LockKey} (first : (due, key) ∈ detector.pending)
    (second : (other, key) ∈ detector.pending) : due = other :=
  congrArg Prod.fst (List.inj_on_of_nodup_map tracks.once first second rfl)

theorem Holds.due_unique (holds : detector.Holds stage foreign) {due other : Time} {key : LockKey}
    (first : (due, key) ∈ detector.pending) (second : (other, key) ∈ detector.pending) :
    due = other :=
  holds.tracks.due_unique first second

theorem ofSettings_of_valid {settings : Settings} (valid : settings.validate = .ok ()) :
    ofSettings settings =
      .ok ⟨settings.scanInterval, settings.reach, settings.cooldown, none, []⟩ := by
  rw [ofSettings, valid]
  rfl

theorem holds_ofSettings {settings : Settings} {detector : Detector Float}
    (made : ofSettings settings = .ok detector) (stage : Stage) :
    detector.Holds stage stage.locks := by
  rcases ok_of_bind made with ⟨_, _, returned⟩
  cases returned
  constructor
  · exact .nil
  · intro key
    exact (or_iff_right List.not_mem_nil).symm
  · exact List.forall_mem_nil _
  · exact List.forall_mem_nil _

/-! ## Taking locks -/

/-- What a turn of a detector takes: locks that were free, each of them for a trade and
until one time. -/
structure Takes {Answer : Type} (detector : Detector Time) (stage : Stage) (due : Time)
    (turn : Turn (Detector Time) Answer) (taken : List LockKey) : Prop where
  pending : turn.actor.pending = detector.pending ++ taken.map fun key => (due, key)
  cooldown : turn.actor.cooldown = detector.cooldown
  mem_locks : ∀ key, key ∈ turn.stage.locks ↔ key ∈ stage.locks ∨ key ∈ taken
  spriteIds : turn.stage.spriteIds = stage.spriteIds
  once : taken.Nodup
  free : ∀ key ∈ taken, key ∉ stage.locks
  isAmong : ∀ key ∈ taken, key.IsAmong stage.spriteIds
  trades_iff : ∀ key, turn.trace.Trades key ↔ key ∈ taken
  noUnlock : ∀ key, .acted (.unlock key) ∉ turn.trace

theorem takes_nil {Answer : Type} {turn : Turn (Detector Time) Answer} {due : Time}
    (pending : turn.actor.pending = detector.pending)
    (cooldown : turn.actor.cooldown = detector.cooldown) (kept : turn.stage = stage)
    (quiet : turn.trace.actions = []) : Takes detector stage due turn [] where
  pending := pending.trans (List.append_nil _).symm
  cooldown := cooldown
  mem_locks key := by simp [kept]
  spriteIds := by rw [kept]
  once := .nil
  free := List.forall_mem_nil _
  isAmong := List.forall_mem_nil _
  trades_iff key := by simp [Trace.Trades, ← Trace.mem_actions, quiet]
  noUnlock key := by simp [← Trace.mem_actions, quiet]

theorem Takes.append {first later : Turn (Detector Time) Nat} {due : Time}
    {firstTaken laterTaken : List LockKey} (firstTakes : Takes detector stage due first firstTaken)
    (laterTakes : Takes first.actor first.stage due later laterTaken) :
    Takes detector stage due
      { later with
        answer := first.answer + later.answer
        trace := first.trace ++ later.trace } (firstTaken ++ laterTaken) where
  pending := by
    rw [laterTakes.pending, firstTakes.pending, List.append_assoc, List.map_append]
  cooldown := laterTakes.cooldown.trans firstTakes.cooldown
  mem_locks key := by
    rw [laterTakes.mem_locks, firstTakes.mem_locks, List.mem_append, or_assoc]
  spriteIds := laterTakes.spriteIds.trans firstTakes.spriteIds
  once := by
    refine List.nodup_append.mpr ⟨firstTakes.once, laterTakes.once, ?_⟩
    intro key inFirst other inLater same
    have locked : key ∈ first.stage.locks := (firstTakes.mem_locks key).mpr (.inr inFirst)
    exact laterTakes.free other inLater (same ▸ locked)
  free := by
    intro key member locked
    rcases List.mem_append.mp member with inFirst | inLater
    · exact firstTakes.free key inFirst locked
    · exact laterTakes.free key inLater ((firstTakes.mem_locks key).mpr (.inl locked))
  isAmong := by
    intro key member
    rcases List.mem_append.mp member with inFirst | inLater
    · exact firstTakes.isAmong key inFirst
    · rw [← firstTakes.spriteIds]
      exact laterTakes.isAmong key inLater
  trades_iff key := by
    rw [Trace.trades_append, firstTakes.trades_iff, laterTakes.trades_iff, List.mem_append]
  noUnlock key := by
    rw [List.mem_append, not_or]
    exact ⟨firstTakes.noUnlock key, laterTakes.noUnlock key⟩

theorem Takes.keys {Answer : Type} {due : Time} {turn : Turn (Detector Time) Answer}
    {taken : List LockKey} (takes : Takes detector stage due turn taken) :
    turn.actor.keys = detector.keys ++ taken := by
  rw [Detector.keys, takes.pending, List.map_append, List.map_map]
  exact congrArg (detector.keys ++ ·) (List.map_id taken)

theorem Takes.tracks {Answer : Type} {due : Time} {turn : Turn (Detector Time) Answer}
    {taken : List LockKey} (takes : Takes detector stage due turn taken)
    (tracks : detector.Tracks stage foreign) : turn.actor.Tracks turn.stage foreign := by
  constructor
  · rw [takes.keys]
    refine List.nodup_append.mpr ⟨tracks.once, takes.once, ?_⟩
    intro key isKey other isTaken same
    exact takes.free other isTaken (same ▸ (tracks.mem_locks key).mpr (.inl isKey))
  · intro key
    rw [takes.keys, List.mem_append, takes.mem_locks, tracks.mem_locks]
    exact or_right_comm
  · intro key member isForeign
    rw [takes.keys] at member
    rcases List.mem_append.mp member with isKey | isTaken
    · exact tracks.apart key isKey isForeign
    · exact takes.free key isTaken ((tracks.mem_locks key).mpr (.inr isForeign))

theorem Takes.holds {Answer : Type} {due : Time} {turn : Turn (Detector Time) Answer}
    {taken : List LockKey} (takes : Takes detector stage due turn taken)
    (holds : detector.Holds stage foreign) : turn.actor.Holds turn.stage foreign := by
  have tracks := takes.tracks holds.tracks
  refine ⟨tracks.once, tracks.mem_locks, tracks.apart, ?_⟩
  intro key member
  rw [takes.spriteIds]
  rw [takes.keys] at member
  rcases List.mem_append.mp member with isKey | isTaken
  · exact holds.isAmong key isKey
  · exact takes.isAmong key isTaken

/-! ## Scanning -/

def IsPair (stage : Stage) (pair : SpriteId × SpriteId) : Prop :=
  pair.1 ≠ pair.2 ∧ pair.1 ∈ stage.spriteIds ∧ pair.2 ∈ stage.spriteIds

theorem isPair_of_mem_touching {reach : Float32} {places : List (SpriteId × Point Float32)}
    (present : ∀ place ∈ places, place.1 ∈ stage.spriteIds) :
    ∀ pair ∈ touching reach places, IsPair stage pair := by
  induction places with
  | nil => exact List.forall_mem_nil _
  | cons place rest induction =>
      rcases place with ⟨id, position⟩
      rcases List.forall_mem_cons.mp present with ⟨first, later⟩
      intro pair member
      rcases List.mem_append.mp member with here | there
      · rcases List.mem_map.mp here with ⟨other, near, same⟩
        rcases List.mem_filter.mp near with ⟨inRest, touches⟩
        rw [Bool.and_eq_true, bne_iff_ne] at touches
        rw [← same]
        exact ⟨touches.1, first, later other inRest⟩
      · exact induction later pair there

theorem mem_spriteIds_of_mem_places {sprites : List SpriteId} :
    ∀ place ∈ places stage sprites, place.1 ∈ stage.spriteIds := by
  intro place member
  rcases List.mem_filterMap.mp member with ⟨id, _, placed⟩
  rcases Option.map_eq_some_iff.mp placed with ⟨sprite, found, same⟩
  rw [← same, Stage.mem_spriteIds_iff, found]
  rfl

section Scan

variable [Clock Time]

theorem collide_of_locked {left right : SpriteId}
    (locked : LockKey.of left right ∈ stage.locks) (now : Time) :
    detector.collide stage now left right = ⟨detector, stage, 0, []⟩ := by
  rw [collide, if_pos]
  exact List.contains_iff_mem.mpr locked

theorem collide_of_free {left right : SpriteId}
    (free : LockKey.of left right ∉ stage.locks) (now : Time) :
    detector.collide stage now left right =
      let key := LockKey.of left right
      let trace : Trace :=
        [.acted (.lock key), .acted (.swapPrograms left right), .programsSwapped left right]
      { actor := { detector with pending := detector.pending ++ [(now + detector.cooldown, key)] }
        stage := stage.replay trace
        answer := 1
        trace } := by
  rw [collide, if_neg]
  exact fun locked => free (List.contains_iff_mem.mp locked)

theorem collide_takes {left right : SpriteId} (pair : IsPair stage (left, right)) (now : Time) :
    ∃ taken, Takes detector stage (now + detector.cooldown)
      (detector.collide stage now left right) taken := by
  by_cases locked : LockKey.of left right ∈ stage.locks
  · rw [collide_of_locked locked]
    exact ⟨[], takes_nil rfl rfl rfl rfl⟩
  · rw [collide_of_free locked]
    refine ⟨[LockKey.of left right], rfl, rfl, ?_, ?_, List.pairwise_singleton .., ?_, ?_, ?_, ?_⟩
    · intro key
      have locks : (stage.replay [.acted (.lock (.of left right)),
          .acted (.swapPrograms left right), .programsSwapped left right]).locks =
          Stage.insertLock (.of left right) stage.locks := Stage.swapPrograms_locks ..
      rw [locks, Stage.mem_insertLock, List.mem_singleton]
      exact or_comm
    · exact Stage.spriteIds_replay ..
    · exact List.forall_mem_singleton.mpr locked
    · exact List.forall_mem_singleton.mpr (LockKey.of_isAmong pair.1 pair.2.1 pair.2.2)
    · intro key
      simp only [Trace.Trades, List.mem_cons, List.not_mem_nil, or_false, reduceCtorEq, false_or,
        Event.acted.injEq, Action.swapPrograms.injEq]
      constructor
      · rintro ⟨_, _, ⟨rfl, rfl⟩, same⟩
        exact same.symm
      · intro same
        exact ⟨left, right, ⟨rfl, rfl⟩, same.symm⟩
    · intro key
      simp

theorem collideAll_takes {pairs : List (SpriteId × SpriteId)}
    (arePairs : ∀ pair ∈ pairs, IsPair stage pair) (now : Time) :
    ∃ taken, Takes detector stage (now + detector.cooldown)
      (detector.collideAll stage now pairs) taken := by
  induction pairs generalizing detector stage with
  | nil => exact ⟨[], takes_nil rfl rfl rfl rfl⟩
  | cons pair rest induction =>
      rcases pair with ⟨left, right⟩
      rcases List.forall_mem_cons.mp arePairs with ⟨first, later⟩
      rcases collide_takes first now with ⟨firstTaken, firstTakes⟩
      have stillPairs : ∀ pair ∈ rest,
          IsPair (detector.collide stage now left right).stage pair := by
        intro pair member
        rw [IsPair, firstTakes.spriteIds]
        exact later pair member
      rcases induction stillPairs with ⟨laterTaken, laterTakes⟩
      rw [firstTakes.cooldown] at laterTakes
      exact ⟨firstTaken ++ laterTaken, firstTakes.append laterTakes⟩

theorem scan_takes (detector : Detector Time) (stage : Stage) (now : Time) :
    ∃ taken, Takes detector stage (now + detector.cooldown) (detector.scan stage now) taken :=
  collideAll_takes (isPair_of_mem_touching mem_spriteIds_of_mem_places) now

end Scan

/-! ## Releasing -/

section Release

variable [Clock Time] {now : Time}

theorem mem_release_pending {entry : Time × LockKey} :
    entry ∈ (detector.release now).1.pending ↔ entry ∈ detector.pending ∧ ¬entry.1 ≤ now := by
  simp [release, isExpired]

theorem unlock_mem_release {key : LockKey} :
    .acted (.unlock key) ∈ (detector.release now).2 ↔
      ∃ due, (due, key) ∈ detector.pending ∧ due ≤ now := by
  simp only [release, List.mem_flatMap, List.mem_filter, isExpired, decide_eq_true_eq]
  constructor
  · rintro ⟨⟨due, other⟩, ⟨member, expired⟩, told⟩
    simp only [List.mem_cons, Event.acted.injEq, Action.unlock.injEq, reduceCtorEq,
      List.not_mem_nil, or_false] at told
    rw [told]
    exact ⟨due, member, expired⟩
  · rintro ⟨due, member, expired⟩
    exact ⟨(due, key), ⟨member, expired⟩, List.mem_cons_self ..⟩

theorem release_noTrade (detector : Detector Time) (now : Time) (key : LockKey) :
    ¬Trace.Trades (detector.release now).2 key := by
  rintro ⟨left, right, traded, _⟩
  rcases List.mem_flatMap.mp traded with ⟨entry, _, told⟩
  simp at told

theorem release_actions (detector : Detector Time) (now : Time) :
    ∀ action ∈ Trace.actions (detector.release now).2, ∃ key, action = .unlock key := by
  intro action member
  rcases List.mem_flatMap.mp (Trace.mem_actions.mp member) with ⟨entry, _, told⟩
  simp only [List.mem_cons, Event.acted.injEq, reduceCtorEq, List.not_mem_nil, or_false] at told
  exact ⟨_, told⟩

theorem mem_locks_release {key : LockKey} :
    key ∈ (stage.replay (detector.release now).2).locks ↔
      key ∈ stage.locks ∧ ¬∃ due, (due, key) ∈ detector.pending ∧ due ≤ now := by
  rw [← unlock_mem_release, Stage.mem_locks_replay (detector.release_actions now)]

theorem mem_keys_of_release {key : LockKey} (member : key ∈ (detector.release now).1.keys) :
    key ∈ detector.keys := by
  rcases mem_keys.mp member with ⟨due, pending⟩
  exact mem_keys.mpr ⟨due, (mem_release_pending.mp pending).1⟩

theorem release_tracks (tracks : detector.Tracks stage foreign) (now : Time) :
    (detector.release now).1.Tracks (stage.replay (detector.release now).2) foreign := by
  constructor
  · exact tracks.once.sublist (List.filter_sublist.map _)
  · intro key
    rw [mem_locks_release, tracks.mem_locks]
    constructor
    · rintro ⟨isKey | isForeign, late⟩
      · rcases mem_keys.mp isKey with ⟨due, pending⟩
        refine .inl (mem_keys.mpr ⟨due, mem_release_pending.mpr ⟨pending, ?_⟩⟩)
        exact fun expired => late ⟨due, pending, expired⟩
      · exact .inr isForeign
    · rintro (isKey | isForeign)
      · refine ⟨.inl (mem_keys_of_release isKey), ?_⟩
        rintro ⟨other, sameKey, expired⟩
        rcases mem_keys.mp isKey with ⟨due, left⟩
        rcases mem_release_pending.mp left with ⟨pending, late⟩
        rw [tracks.due_unique sameKey pending] at expired
        exact late expired
      · refine ⟨.inr isForeign, ?_⟩
        rintro ⟨due, pending, _⟩
        exact tracks.apart key (mem_keys.mpr ⟨due, pending⟩) isForeign
  · intro key member
    exact tracks.apart key (mem_keys_of_release member)

theorem release_holds (holds : detector.Holds stage foreign) (now : Time) :
    (detector.release now).1.Holds (stage.replay (detector.release now).2) foreign := by
  have tracks := release_tracks holds.tracks now
  refine ⟨tracks.once, tracks.mem_locks, tracks.apart, ?_⟩
  intro key member
  rw [Stage.spriteIds_replay]
  exact holds.isAmong key (mem_keys_of_release member)

end Release

/-! ## Calls -/

section Call

variable {detector : Detector Float} {call : Call} {turn : Turn (Detector Float) Unit}

def Call.time? : Call → Option Float
  | .start _ now | .scan now | .advance now => some now
  | .stop => none

def Call.Frees (call : Call) (due : Float) : Prop := ∃ now, call = .advance now ∧ due ≤ now

/-- What a call is to the locks of a stage: some are taken, until a time that is fixed
by the time of the call; and before that an advance releases those that are due. -/
inductive Exchange (detector : Detector Float) (stage : Stage) :
    Call → Turn (Detector Float) Unit → Prop
  | takes (call : Call) (turn : Turn (Detector Float) Unit) (due : Float) (taken : List LockKey)
      (other : ∀ now, call ≠ .advance now)
      (timed : ∀ now, call.time? = some now → due = now + detector.cooldown)
      (takes : Takes detector stage due turn taken) : Exchange detector stage call turn
  | advances (now : Float) (turn : Turn (Detector Float) Unit) (taken : List LockKey)
      (takes : Takes (detector.release now).1 (stage.replay (detector.release now).2)
        (now + detector.cooldown) turn taken) :
      Exchange detector stage (.advance now)
        { turn with trace := (detector.release now).2 ++ turn.trace }

theorem advance_exchange (detector : Detector Float) (stage : Stage) (now : Float) :
    Exchange detector stage (.advance now) (detector.perform stage (.advance now)) := by
  have idle : Exchange detector stage (.advance now) ⟨(detector.release now).1,
      stage.replay (detector.release now).2, (), (detector.release now).2 ++ []⟩ :=
    .advances now ⟨_, _, (), []⟩ [] (takes_nil rfl rfl rfl rfl)
  rw [List.append_nil] at idle
  simp only [perform, advance]
  split
  · split
    · next watch _ _ =>
        let watching : Detector Float := { (detector.release now).1 with
          watch := some { watch with nextScan := nextPoint detector.interval watch.nextScan now } }
        let scanned := watching.scan (stage.replay (detector.release now).2) now
        rcases watching.scan_takes (stage.replay (detector.release now).2) now with ⟨taken, takes⟩
        exact .advances now { scanned with answer := () } taken { takes with }
    · exact idle
  · exact idle

theorem perform_exchange (detector : Detector Float) (stage : Stage) (call : Call) :
    Exchange detector stage call (detector.perform stage call) := by
  cases call with
  | start sprites now =>
      refine .takes _ _ (now + detector.cooldown) [] (fun _ same => by cases same) ?_ ?_
      · rintro _ ⟨⟩
        rfl
      · simp only [perform, start]
        split <;> exact takes_nil rfl rfl rfl rfl
  | stop =>
      refine .takes _ _ 0.0 [] (fun _ same => by cases same) (fun _ timed => by cases timed) ?_
      simp only [perform, stop]
      split <;> exact takes_nil rfl rfl rfl rfl
  | scan now =>
      rcases detector.scan_takes stage now with ⟨taken, takes⟩
      refine .takes _ _ (now + detector.cooldown) taken (fun _ same => by cases same) ?_
        { takes with }
      rintro _ ⟨⟩
      rfl
  | advance now => exact detector.advance_exchange stage now

theorem Exchange.tracks (exchange : Exchange detector stage call turn)
    (tracks : detector.Tracks stage foreign) : turn.actor.Tracks turn.stage foreign := by
  cases exchange with
  | takes call turn due taken other timed takes => exact takes.tracks tracks
  | advances now turn taken takes => exact takes.tracks (release_tracks tracks now)

theorem Exchange.holds (exchange : Exchange detector stage call turn)
    (holds : detector.Holds stage foreign) : turn.actor.Holds turn.stage foreign := by
  cases exchange with
  | takes call turn due taken other timed takes => exact takes.holds holds
  | advances now turn taken takes => exact takes.holds (release_holds holds now)

theorem Exchange.cooldown (exchange : Exchange detector stage call turn) :
    turn.actor.cooldown = detector.cooldown := by
  cases exchange with
  | takes call turn due taken other timed takes => exact takes.cooldown
  | advances now turn taken takes => exact takes.cooldown

theorem Exchange.mem_pending (exchange : Exchange detector stage call turn) {due : Float}
    {key : LockKey} (member : (due, key) ∈ detector.pending) (early : ¬call.Frees due) :
    (due, key) ∈ turn.actor.pending := by
  cases exchange with
  | takes call turn deadline taken other timed takes =>
      rw [takes.pending]
      exact List.mem_append_left _ member
  | advances now turn taken takes =>
      rw [takes.pending]
      refine List.mem_append_left _ (mem_release_pending.mpr ⟨member, ?_⟩)
      exact fun expired => early ⟨now, rfl, expired⟩

theorem Exchange.unlock_mem (exchange : Exchange detector stage call turn) {key : LockKey} :
    .acted (.unlock key) ∈ turn.trace ↔ ∃ due, (due, key) ∈ detector.pending ∧ call.Frees due := by
  cases exchange with
  | takes call turn deadline taken other timed takes =>
      refine iff_of_false (takes.noUnlock key) ?_
      rintro ⟨due, _, now, isAdvance, _⟩
      exact other now isAdvance
  | advances now turn taken takes =>
      rw [List.mem_append, or_iff_left (takes.noUnlock key), unlock_mem_release]
      simp [Call.Frees]

theorem Exchange.of_trades (exchange : Exchange detector stage call turn)
    (holds : detector.Holds stage foreign) {key : LockKey} (trades : turn.trace.Trades key) :
    (∀ now, call.time? = some now → (now + detector.cooldown, key) ∈ turn.actor.pending) ∧
      ∀ due, (due, key) ∈ detector.pending → call.Frees due := by
  cases exchange with
  | takes call turn deadline taken other timed takes =>
      have isTaken : key ∈ taken := (takes.trades_iff key).mp trades
      constructor
      · intro now time
        rw [takes.pending, ← timed now time]
        exact List.mem_append_right _ (List.mem_map_of_mem isTaken)
      · intro due member
        exact absurd (holds.locked member) (takes.free key isTaken)
  | advances now turn taken takes =>
      have isTaken : key ∈ taken := by
        rw [Trace.trades_append, or_iff_right (release_noTrade detector now key)] at trades
        exact (takes.trades_iff key).mp trades
      constructor
      · rintro _ ⟨⟩
        rw [takes.pending]
        exact List.mem_append_right _ (List.mem_map_of_mem isTaken)
      · intro due member
        by_contra early
        refine takes.free key isTaken (mem_locks_release.mpr ⟨holds.locked member, ?_⟩)
        rintro ⟨other, sameKey, expired⟩
        rw [holds.due_unique sameKey member] at expired
        exact early ⟨now, rfl, expired⟩

theorem Exchange.mem_locks (exchange : Exchange detector stage call turn) {key : LockKey}
    (released : .acted (.unlock key) ∈ turn.trace) :
    key ∈ turn.stage.locks ↔ turn.trace.Trades key := by
  cases exchange with
  | takes call turn deadline taken other timed takes => exact absurd released (takes.noUnlock key)
  | advances now turn taken takes =>
      rw [List.mem_append, or_iff_left (takes.noUnlock key), unlock_mem_release] at released
      rw [takes.mem_locks, mem_locks_release, Trace.trades_append, takes.trades_iff]
      simp [released, release_noTrade]

end Call

end Detector

end SpriteScript
