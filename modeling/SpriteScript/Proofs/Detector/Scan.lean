import SpriteScript.Proofs.Detector.Locks
import SpriteScript.Proofs.Stage.Bare
import SpriteScript.Proofs.Stage.Programs

namespace SpriteScript

/-! What a scan comes to. Two sprites trade their programs in it if they are not locked before
and touch in the order in which they are observed, and then they do so once, however often they
are observed. -/

/-! ## Keys -/

theorem LockKey.of_eq_of_iff {left right first second : SpriteId} :
    of left right = of first second ↔
      (left = first ∧ right = second) ∨ (left = second ∧ right = first) := by
  constructor
  · intro same
    simp only [of] at same
    split at same <;> split at same <;> cases same <;> simp
  · rintro (⟨rfl, rfl⟩ | ⟨rfl, rfl⟩)
    · rfl
    · exact of_comm left right

def Action.tradedKey? : Action → Option LockKey
  | .swapPrograms left right => some (.of left right)
  | _ => none

def Action.isTradeOf (left right : SpriteId) (action : Action) : Bool :=
  action = .swapPrograms left right ∨ action = .swapPrograms right left

namespace Trace

def tradedKeys (trace : Trace) : List LockKey := trace.actions.filterMap Action.tradedKey?

def tradesOf (trace : Trace) (left right : SpriteId) : Nat :=
  trace.actions.countP (Action.isTradeOf left right)

theorem tradedKeys_append (left right : Trace) :
    tradedKeys (left ++ right) = tradedKeys left ++ tradedKeys right := by
  rw [tradedKeys, actions_append, List.filterMap_append]
  rfl

theorem map_swaps (trace : Trace) :
    (trace.swaps.map fun swap => LockKey.of swap.1 swap.2) = trace.tradedKeys := by
  rw [swaps, List.map_filterMap, tradedKeys]
  refine List.filterMap_congr fun action _ => ?_
  cases action <;> rfl

theorem tradesOf_eq_count (trace : Trace) (left right : SpriteId) :
    trace.tradesOf left right = trace.tradedKeys.count (.of left right) := by
  rw [tradedKeys, List.count, List.countP_filterMap, tradesOf]
  refine List.countP_congr fun action _ => ?_
  cases action with
  | swapPrograms first second =>
      simp [Action.isTradeOf, Action.tradedKey?, LockKey.of_eq_of_iff]
  | _ => simp [Action.isTradeOf, Action.tradedKey?]

end Trace

namespace Stage

theorem perm_insertLock {key : LockKey} {locks : List LockKey} (free : key ∉ locks) :
    (insertLock key locks).Perm (key :: locks) := by
  induction locks with
  | nil => exact .refl _
  | cons first rest induction =>
      rw [List.mem_cons, not_or] at free
      rw [insertLock, if_neg free.1]
      split
      · exact .refl _
      · exact ((induction free.2).cons first).trans (.swap key first rest)

theorem bare_swapPrograms (stage : Stage) (left right : SpriteId) :
    (stage.swapPrograms left right).sprites.map Sprite.bare = stage.sprites.map Sprite.bare := by
  have keeps (stage : Stage) (id : SpriteId) (program : List Block) :
      (stage.changeSprite id fun sprite => { sprite with program }).sprites.map Sprite.bare =
        stage.sprites.map Sprite.bare := by
    refine map_changeFirst Sprite.bare id (fun sprite _ => ?_) stage.sprites
    rfl
  rw [swapPrograms]
  split
  · rfl
  · split
    · rw [keeps, keeps]
    · rfl

end Stage

namespace Detector

variable {Time : Type} {detector : Detector Time} {stage : Stage}

/-! ## Pairs -/

def Precedes (observed : List SpriteId) (left right : SpriteId) : Prop :=
  ∃ i j : Nat, i < j ∧ observed[i]? = some left ∧ observed[j]? = some right

def Touch (stage : Stage) (reach : Float32) (left right : SpriteId) : Prop :=
  ∃ leftSprite rightSprite, stage.sprite? left = some leftSprite ∧
    stage.sprite? right = some rightSprite ∧
    leftSprite.position.touches rightSprite.position reach = true

theorem precedes_cons {first left right : SpriteId} {rest : List SpriteId} :
    Precedes (first :: rest) left right ↔
      (first = left ∧ right ∈ rest) ∨ Precedes rest left right := by
  constructor
  · rintro ⟨i, j, before, isLeft, isRight⟩
    rcases Nat.exists_eq_add_one_of_ne_zero (Nat.ne_of_gt (Nat.zero_lt_of_lt before)) with ⟨j, rfl⟩
    rw [List.getElem?_cons_succ] at isRight
    cases i with
    | zero =>
        rw [List.getElem?_cons_zero, Option.some.injEq] at isLeft
        exact .inl ⟨isLeft, List.mem_of_getElem? isRight⟩
    | succ i =>
        rw [List.getElem?_cons_succ] at isLeft
        exact .inr ⟨i, j, Nat.lt_of_succ_lt_succ before, isLeft, isRight⟩
  · rintro (⟨rfl, member⟩ | ⟨i, j, before, isLeft, isRight⟩)
    · rcases List.getElem?_of_mem member with ⟨j, isRight⟩
      exact ⟨0, j + 1, Nat.zero_lt_succ j, rfl, isRight⟩
    · exact ⟨i + 1, j + 1, Nat.succ_lt_succ before, isLeft, isRight⟩

theorem mem_places {observed : List SpriteId} {id : SpriteId} {position : Point Float32} :
    (id, position) ∈ places stage observed ↔
      id ∈ observed ∧ ∃ sprite, stage.sprite? id = some sprite ∧ sprite.position = position := by
  simp only [places, List.mem_filterMap, Option.map_eq_some_iff, Prod.mk.injEq]
  constructor
  · rintro ⟨_, member, sprite, found, rfl, placed⟩
    exact ⟨member, sprite, found, placed⟩
  · rintro ⟨member, sprite, found, placed⟩
    exact ⟨id, member, sprite, found, rfl, placed⟩

theorem mem_touching_first {reach : Float32} {first left right : SpriteId} {sprite : Sprite}
    {rest : List SpriteId} (found : stage.sprite? first = some sprite) :
    (left, right) ∈ ((places stage rest).filter fun other =>
        first != other.1 && sprite.position.touches other.2 reach).map (fun other =>
          (first, other.1)) ↔
      left ≠ right ∧ (first = left ∧ right ∈ rest) ∧ Touch stage reach left right := by
  simp only [List.mem_map, List.mem_filter, Bool.and_eq_true, bne_iff_ne, Prod.mk.injEq]
  constructor
  · rintro ⟨⟨other, position⟩, ⟨member, different, near⟩, rfl, rfl⟩
    rcases mem_places.mp member with ⟨inRest, otherSprite, otherFound, rfl⟩
    exact ⟨different, ⟨rfl, inRest⟩, sprite, otherSprite, found, otherFound, near⟩
  · rintro ⟨different, ⟨rfl, inRest⟩, leftSprite, otherSprite, leftFound, otherFound, near⟩
    rw [found] at leftFound
    cases leftFound
    exact ⟨(right, otherSprite.position),
      ⟨mem_places.mpr ⟨inRest, otherSprite, otherFound, rfl⟩, different, near⟩, rfl, rfl⟩

theorem mem_touching_places {reach : Float32} {observed : List SpriteId}
    {left right : SpriteId} :
    (left, right) ∈ touching reach (places stage observed) ↔
      left ≠ right ∧ Precedes observed left right ∧ Touch stage reach left right := by
  induction observed with
  | nil =>
      refine iff_of_false List.not_mem_nil ?_
      rintro ⟨_, ⟨i, j, _, isLeft, _⟩, _⟩
      cases isLeft
  | cons first rest induction =>
      rw [precedes_cons, or_and_right, and_or_left]
      cases found : stage.sprite? first with
      | none =>
          have skipped : places stage (first :: rest) = places stage rest := by
            simp [places, found]
          have absent : ¬Touch stage reach first right := by
            rintro ⟨sprite, _, present, _⟩
            rw [found] at present
            cases present
          rw [skipped, induction, or_iff_right]
          rintro ⟨_, ⟨rfl, _⟩, touch⟩
          exact absent touch
      | some sprite =>
          have placed : places stage (first :: rest) =
              (first, sprite.position) :: places stage rest := by
            simp [places, found]
          rw [placed, touching, List.mem_append, induction, mem_touching_first found]

/-! ## Trades -/

/-- What a turn of a detector that is given pairs of sprites comes to, by the keys of its trades:
these are the keys of the pairs that were not locked, each of them once. -/
structure Swaps [Clock Time] (detector : Detector Time) (stage : Stage) (now : Time)
    (pairs : List (SpriteId × SpriteId)) (turn : Turn (Detector Time) Nat) : Prop where
  once : turn.trace.tradedKeys.Nodup
  mem_keys : ∀ key, key ∈ turn.trace.tradedKeys ↔
    key ∉ stage.locks ∧ ∃ pair ∈ pairs, LockKey.of pair.1 pair.2 = key
  answer : turn.answer = turn.trace.tradedKeys.length
  actor : turn.actor = { detector with
    pending := detector.pending ++
      turn.trace.tradedKeys.map fun key => (now + detector.cooldown, key) }
  locks : turn.stage.locks.Perm (turn.trace.tradedKeys ++ stage.locks)
  bare : turn.stage.sprites.map Sprite.bare = stage.sprites.map Sprite.bare
  frame : turn.stage = { stage with sprites := turn.stage.sprites, locks := turn.stage.locks }

section Scan

variable [Clock Time] {now : Time}

theorem Swaps.mem_locks {pairs : List (SpriteId × SpriteId)} {turn : Turn (Detector Time) Nat}
    (swaps : Swaps detector stage now pairs turn) (key : LockKey) :
    key ∈ turn.stage.locks ↔ key ∈ turn.trace.tradedKeys ∨ key ∈ stage.locks :=
  swaps.locks.mem_iff.trans List.mem_append

theorem swaps_of_quiet {pairs : List (SpriteId × SpriteId)}
    (locked : ∀ pair ∈ pairs, LockKey.of pair.1 pair.2 ∈ stage.locks) :
    Swaps detector stage now pairs ⟨detector, stage, 0, []⟩ where
  once := .nil
  mem_keys key := by
    refine iff_of_false List.not_mem_nil ?_
    rintro ⟨free, pair, member, rfl⟩
    exact free (locked pair member)
  answer := rfl
  actor := by simp [Trace.tradedKeys, Trace.actions]
  locks := .refl _
  bare := rfl
  frame := rfl

theorem collide_swaps (detector : Detector Time) (stage : Stage) (now : Time)
    (left right : SpriteId) :
    Swaps detector stage now [(left, right)] (detector.collide stage now left right) := by
  by_cases locked : LockKey.of left right ∈ stage.locks
  · rw [collide_of_locked locked]
    exact swaps_of_quiet (List.forall_mem_singleton.mpr locked)
  · rw [collide_of_free locked]
    let locking := stage.apply (.lock (.of left right))
    have traded : stage.replay [.acted (.lock (.of left right)),
        .acted (.swapPrograms left right), .programsSwapped left right] =
          locking.swapPrograms left right := rfl
    constructor
    · exact List.pairwise_singleton ..
    · intro key
      have keys : Trace.tradedKeys [.acted (.lock (.of left right)),
          .acted (.swapPrograms left right), .programsSwapped left right] = [.of left right] := rfl
      simp only [keys, List.mem_singleton, exists_eq_left]
      constructor
      · rintro rfl
        exact ⟨locked, rfl⟩
      · rintro ⟨_, same⟩
        exact same.symm
    · rfl
    · rfl
    · simp only [traded]
      rw [Stage.swapPrograms_locks]
      exact Stage.perm_insertLock locked
    · simp only [traded]
      rw [Stage.bare_swapPrograms]
      rfl
    · simp only [traded]
      rw [Stage.swapPrograms_eq]
      rfl

theorem Swaps.append {first later : Turn (Detector Time) Nat}
    {pairs others : List (SpriteId × SpriteId)} (swaps : Swaps detector stage now pairs first)
    (swapsLater : Swaps first.actor first.stage now others later) :
    Swaps detector stage now (pairs ++ others)
      { later with
        answer := first.answer + later.answer
        trace := first.trace ++ later.trace } where
  once := by
    rw [Trace.tradedKeys_append]
    refine List.nodup_append.mpr ⟨swaps.once, swapsLater.once, ?_⟩
    rintro key inFirst _ inLater rfl
    exact ((swapsLater.mem_keys key).mp inLater).1 ((swaps.mem_locks key).mpr (.inl inFirst))
  mem_keys key := by
    rw [Trace.tradedKeys_append, List.mem_append, swapsLater.mem_keys, swaps.mem_locks,
      swaps.mem_keys]
    have parts : (∃ pair ∈ pairs ++ others, LockKey.of pair.1 pair.2 = key) ↔
        (∃ pair ∈ pairs, LockKey.of pair.1 pair.2 = key) ∨
          ∃ pair ∈ others, LockKey.of pair.1 pair.2 = key := by
      simp only [List.mem_append, or_and_right, exists_or]
    by_cases locked : key ∈ stage.locks
    · simp [locked]
    · simp only [parts, locked, not_false_eq_true, true_and, or_false, or_and_left, em]
  answer := by
    rw [Trace.tradedKeys_append, List.length_append, swaps.answer, swapsLater.answer]
  actor := by
    rw [Trace.tradedKeys_append, List.map_append, ← List.append_assoc, swapsLater.actor,
      swaps.actor]
  locks := by
    rw [Trace.tradedKeys_append]
    have moved := swapsLater.locks.trans (swaps.locks.append_left _)
    rw [← List.append_assoc] at moved
    exact moved.trans (List.perm_append_comm.append_right _)
  bare := swapsLater.bare.trans swaps.bare
  frame := by
    rw [swapsLater.frame, swaps.frame]

theorem collideAll_swaps (detector : Detector Time) (stage : Stage) (now : Time)
    (pairs : List (SpriteId × SpriteId)) :
    Swaps detector stage now pairs (detector.collideAll stage now pairs) := by
  induction pairs generalizing detector stage with
  | nil => exact swaps_of_quiet (List.forall_mem_nil _)
  | cons pair rest induction =>
      rcases pair with ⟨left, right⟩
      exact (collide_swaps detector stage now left right).append (induction _ _)

/-! ## Scans -/

/-- Whether two different sprites are not locked and touch in the order in which they are
observed. -/
def Clashes (detector : Detector Time) (stage : Stage) (left right : SpriteId) : Prop :=
  LockKey.of left right ∉ stage.locks ∧ left ≠ right ∧
    (Precedes detector.observed left right ∧ Touch stage detector.reach left right ∨
      Precedes detector.observed right left ∧ Touch stage detector.reach right left)

theorem scan_swaps (detector : Detector Time) (stage : Stage) (now : Time) :
    Swaps detector stage now (touching detector.reach (places stage detector.observed))
      (detector.scan stage now) :=
  detector.collideAll_swaps stage now _

theorem mem_tradedKeys_scan {left right : SpriteId} :
    LockKey.of left right ∈ (detector.scan stage now).trace.tradedKeys ↔
      detector.Clashes stage left right := by
  rw [(detector.scan_swaps stage now).mem_keys]
  refine and_congr_right fun _ => ?_
  constructor
  · rintro ⟨⟨first, second⟩, member, same⟩
    rcases mem_touching_places.mp member with ⟨different, met⟩
    rcases LockKey.of_eq_of_iff.mp same with ⟨rfl, rfl⟩ | ⟨rfl, rfl⟩
    · exact ⟨different, .inl met⟩
    · exact ⟨different.symm, .inr met⟩
  · rintro ⟨different, met | met⟩
    · exact ⟨(left, right), mem_touching_places.mpr ⟨different, met⟩, rfl⟩
    · exact ⟨(right, left), mem_touching_places.mpr ⟨different.symm, met⟩, LockKey.of_comm ..⟩

theorem exists_of_mem_tradedKeys_scan {key : LockKey}
    (member : key ∈ (detector.scan stage now).trace.tradedKeys) :
    ∃ left right, LockKey.of left right = key := by
  rcases (((detector.scan_swaps stage now).mem_keys key).mp member).2 with ⟨pair, _, same⟩
  exact ⟨pair.1, pair.2, same⟩

/-- In a scan two sprites trade once if they are not locked and touch in the order in which they
are observed, and otherwise they do not trade. The answer counts the keys of these pairs, which
are the locks that are taken and the releases that are planned. The programs are those from
before, exchanged by the trades with these keys, one after the other. Nothing else changes:
neither the grid of the detector nor, the programs apart, any sprite. -/
theorem scan_trades_once (detector : Detector Time) (stage : Stage) (now : Time) :
    let turn := detector.scan stage now
    (∀ left right,
      (detector.Clashes stage left right → turn.trace.tradesOf left right = 1) ∧
      (¬detector.Clashes stage left right → turn.trace.tradesOf left right = 0)) ∧
    (∃ keys : List LockKey, keys.Nodup ∧
      (∀ key, key ∈ keys ↔
        ∃ left right, detector.Clashes stage left right ∧ LockKey.of left right = key) ∧
      turn.answer = keys.length ∧ turn.stage.locks.Perm (keys ++ stage.locks) ∧
      turn.actor = { detector with
        pending := detector.pending ++ keys.map fun key => (now + detector.cooldown, key) } ∧
      (turn.trace.swaps.map fun swap => LockKey.of swap.1 swap.2) = keys ∧
      turn.stage.programs =
        Stage.exchangeAll stage.spriteIds turn.trace.swaps stage.programs) ∧
    turn.stage = stage.replay turn.trace ∧
    turn.stage = { stage with sprites := turn.stage.sprites, locks := turn.stage.locks } ∧
    turn.stage.sprites.map Sprite.bare = stage.sprites.map Sprite.bare := by
  intro turn
  have swaps := detector.scan_swaps stage now
  have replayed : turn.stage = stage.replay turn.trace := (detector.scan_stage stage now).1
  refine ⟨?_, ⟨turn.trace.tradedKeys, swaps.once, ?_, swaps.answer, swaps.locks, swaps.actor,
    turn.trace.map_swaps, ?_⟩, replayed, swaps.frame, swaps.bare⟩
  · intro left right
    rw [Trace.tradesOf_eq_count]
    constructor
    · intro clashes
      exact List.count_eq_one_of_mem swaps.once (mem_tradedKeys_scan.mpr clashes)
    · intro apart
      exact List.count_eq_zero.mpr fun member => apart (mem_tradedKeys_scan.mp member)
  · intro key
    constructor
    · intro member
      rcases exists_of_mem_tradedKeys_scan member with ⟨left, right, rfl⟩
      exact ⟨left, right, mem_tradedKeys_scan.mp member, rfl⟩
    · rintro ⟨left, right, clashes, rfl⟩
      exact mem_tradedKeys_scan.mpr clashes
  · rw [replayed]
    exact (stage.trades_replay turn.trace).programs

end Scan

/-- Three sprites at one place, two of them locked; one is observed twice, and one that is
observed is not there. -/
theorem scan_trades_once_three :
    let sprites := [1, 2, 3].map fun number => Sprite.new ⟨number⟩ "Cat" .origin
    let stage := { Stage.ofSeed 0 with sprites, locks := [⟨⟨1⟩, ⟨3⟩⟩] }
    let detector : Detector Float :=
      ⟨100.0, 40.0, 1000.0, some ⟨[⟨2⟩, ⟨9⟩, ⟨1⟩, ⟨2⟩, ⟨3⟩], 100.0⟩, []⟩
    let trace := (detector.scan stage 100.0).trace
    trace.tradesOf ⟨1⟩ ⟨2⟩ = 1 ∧ trace.tradesOf ⟨3⟩ ⟨1⟩ = 0 := by
  intro sprites stage detector trace
  have trades := (detector.scan_trades_once stage 100.0).1
  have clash : detector.Clashes stage ⟨1⟩ ⟨2⟩ := by
    refine ⟨by decide, by decide, .inl ⟨⟨2, 3, by decide, rfl, rfl⟩, ?_⟩⟩
    exact ⟨.new ⟨1⟩ "Cat" .origin, .new ⟨2⟩ "Cat" .origin, rfl, rfl, by decide +kernel⟩
  have locked : ¬detector.Clashes stage ⟨3⟩ ⟨1⟩ := fun clashes => clashes.1 (by decide)
  exact ⟨(trades _ _).1 clash, (trades _ _).2 locked⟩

end Detector

end SpriteScript
