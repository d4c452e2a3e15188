import SpriteScript.Proofs.Detector.Scan
import SpriteScript.Proofs.Json.Number
import SpriteScript.Proofs.Json.Record

namespace SpriteScript

/-! Which keys stop a trade. A detector looks for the key that it would take itself, and this one
has its sprites in ascending order. A key that is read from a text keeps the order that it has
there, and in descending order it stops nothing. -/

namespace LockKey

def Names (key : LockKey) (left right : SpriteId) : Prop :=
  key = ⟨left, right⟩ ∨ key = ⟨right, left⟩

def IsOrdered (key : LockKey) : Prop := key.first.number ≤ key.second.number

instance (key : LockKey) : Decidable key.IsOrdered :=
  inferInstanceAs (Decidable (key.first.number ≤ key.second.number))

theorem of_isOrdered (left right : SpriteId) : (of left right).IsOrdered := by
  rw [of]
  split
  · next before => exact before
  · next after => exact UInt32.le_of_lt (UInt32.not_le.mp after)

theorem of_names (left right : SpriteId) : (of left right).Names left right := by
  rw [of]
  split
  · exact .inl rfl
  · exact .inr rfl

theorem IsOrdered.of_eq {key : LockKey} (ordered : key.IsOrdered) : of key.first key.second = key :=
  if_pos ordered

theorem Names.of_eq {key : LockKey} {left right : SpriteId} (names : key.Names left right) :
    of key.first key.second = of left right := by
  rcases names with rfl | rfl
  · rfl
  · exact of_comm right left

theorem Names.eq_of_iff {key : LockKey} {left right : SpriteId} (names : key.Names left right) :
    key = of left right ↔ key.IsOrdered := by
  constructor
  · rintro rfl
    exact of_isOrdered left right
  · intro ordered
    rw [← names.of_eq, ordered.of_eq]

/-- There is one key for two sprites in each order, or one alone for a sprite and itself. -/
theorem Names.eq_iff {key other : LockKey} {left right : SpriteId} (names : key.Names left right)
    (otherNames : other.Names left right) : key = other ↔ (key.IsOrdered ↔ other.IsOrdered) := by
  constructor
  · rintro rfl
    exact Iff.rfl
  · intro alike
    by_cases ordered : key.IsOrdered
    · exact (names.eq_of_iff.mpr ordered).trans (otherNames.eq_of_iff.mpr (alike.mp ordered)).symm
    · have reversed : ¬other.IsOrdered := fun isOrdered => ordered (alike.mpr isOrdered)
      rcases names with rfl | rfl <;> rcases otherNames with rfl | rfl
      · rfl
      · exact absurd (UInt32.le_of_lt (UInt32.not_le.mp ordered)) reversed
      · exact absurd (UInt32.le_of_lt (UInt32.not_le.mp ordered)) reversed
      · rfl

/-! ## Keys from texts -/

theorem toJson_isProper (key : LockKey) : key.toJson.IsProper :=
  ⟨Json.natural_isProper _, Json.natural_isProper _, trivial⟩

theorem ofText_written (key : LockKey) : ofText key.toJson.toText = .ok key := by
  have small : UInt32.size ≤ Quantity.wordLimit := by decide
  have first := Json.asNatural?_natural small key.first.number.toNat_lt
  have second := Json.asNatural?_natural small key.second.number.toNat_lt
  have read : ofJson? Json.depthLimit key.toJson = some key := by
    simp only [ofJson?, toJson, Json.asItems?, Json.depthLimit, first, second]
    simp
  rw [ofText, Reading.text_of_ended (Document.ofString_toText key.toJson_isProper),
    Reading.ofOption_eq_ok]
  exact read

end LockKey

namespace Detector

variable {Time : Type}

def Meets (detector : Detector Time) (stage : Stage) (left right : SpriteId) : Prop :=
  left ≠ right ∧
    (Precedes detector.observed left right ∧ Touch stage detector.reach left right ∨
      Precedes detector.observed right left ∧ Touch stage detector.reach right left)

/-- Two sprites that meet in a scan trade once, unless a key of the stage names them in ascending
order. Two keys of the same sprites are the same one if both are in order or neither is. A key
that is made is in order, but each key can come from a text. -/
theorem ordered_key_stops_trade [Clock Time] (detector : Detector Time) (stage : Stage)
    (now : Time) (left right : SpriteId) :
    let trades := (detector.scan stage now).trace.tradesOf left right
    let isLocked := ∃ key ∈ stage.locks, key.Names left right ∧ key.IsOrdered
    (isLocked → trades = 0) ∧
    (detector.Meets stage left right → ¬isLocked → trades = 1) ∧
    (∀ key other : LockKey, key.Names left right → other.Names left right →
      (key = other ↔ (key.IsOrdered ↔ other.IsOrdered))) ∧
    (LockKey.of left right).Names left right ∧ (LockKey.of left right).IsOrdered ∧
    ∀ key : LockKey, LockKey.ofText key.toJson.toText = .ok key := by
  intro trades isLocked
  have locked_iff : isLocked ↔ LockKey.of left right ∈ stage.locks := by
    constructor
    · rintro ⟨key, member, names, ordered⟩
      rwa [← names.eq_of_iff.mpr ordered]
    · intro member
      exact ⟨_, member, LockKey.of_names left right, LockKey.of_isOrdered left right⟩
  have count : trades = (detector.scan stage now).trace.tradedKeys.count (.of left right) :=
    Trace.tradesOf_eq_count ..
  refine ⟨?_, ?_, ?_, LockKey.of_names left right, LockKey.of_isOrdered left right,
    LockKey.ofText_written⟩
  · intro locked
    rw [count, List.count_eq_zero, mem_tradedKeys_scan]
    exact fun clashes => clashes.1 (locked_iff.mp locked)
  · intro meets free
    rw [count]
    apply List.count_eq_one_of_mem (detector.scan_swaps stage now).once
    rw [mem_tradedKeys_scan]
    exact ⟨fun member => free (locked_iff.mpr member), meets⟩
  · intro key other names otherNames
    exact names.eq_iff otherNames

/-- Three sprites at one place, with a key in order for two of them and a reversed one for two
others. -/
theorem ordered_key_stops_trade_three :
    let sprites := [1, 2, 3].map fun number => Sprite.new ⟨number⟩ "Cat" .origin
    let stage := { Stage.ofSeed 0 with sprites, locks := [⟨⟨1⟩, ⟨2⟩⟩, ⟨⟨3⟩, ⟨1⟩⟩] }
    let detector : Detector Float := ⟨100.0, 50.0, 1000.0, some ⟨[⟨3⟩, ⟨2⟩, ⟨1⟩], 100.0⟩, []⟩
    let trace := (detector.scan stage 100.0).trace
    trace.tradesOf ⟨2⟩ ⟨1⟩ = 0 ∧ trace.tradesOf ⟨1⟩ ⟨3⟩ = 1 := by
  intro sprites stage detector trace
  have locked : ∃ key ∈ stage.locks, key.Names ⟨2⟩ ⟨1⟩ ∧ key.IsOrdered :=
    ⟨⟨⟨1⟩, ⟨2⟩⟩, by decide, .inr rfl, by decide⟩
  have meets : detector.Meets stage ⟨1⟩ ⟨3⟩ := by
    refine ⟨by decide, .inr ⟨⟨0, 2, by decide, rfl, rfl⟩, ?_⟩⟩
    exact ⟨.new ⟨3⟩ "Cat" .origin, .new ⟨1⟩ "Cat" .origin, rfl, rfl, by decide +kernel⟩
  have free : ¬∃ key ∈ stage.locks, key.Names ⟨1⟩ ⟨3⟩ ∧ key.IsOrdered := by
    rintro ⟨key, member, names, ordered⟩
    rw [← names.eq_of_iff] at ordered
    rw [ordered] at member
    revert member
    decide
  constructor
  · exact (detector.ordered_key_stops_trade stage 100.0 ⟨2⟩ ⟨1⟩).1 locked
  · exact (detector.ordered_key_stops_trade stage 100.0 ⟨1⟩ ⟨3⟩).2.1 meets free

/-- A key that is read with the greater sprite first names two sprites that meet, and it is not
the key of these sprites. They trade as if there were no lock. -/
theorem reversed_key_lets_trade :
    let key : LockKey := ⟨⟨2⟩, ⟨1⟩⟩
    let sprites := [1, 2].map fun number => Sprite.new ⟨number⟩ "Cat" .origin
    let stage := { Stage.ofSeed 0 with sprites }.apply (.lock key)
    let detector : Detector Float := ⟨100.0, 50.0, 1000.0, some ⟨[⟨1⟩, ⟨2⟩], 100.0⟩, []⟩
    LockKey.ofText "[2,1]" = .ok key ∧ key ≠ .of ⟨1⟩ ⟨2⟩ ∧ key ∈ stage.locks ∧
      (detector.scan stage 100.0).trace.tradesOf ⟨1⟩ ⟨2⟩ = 1 := by
  decide +kernel

end Detector

end SpriteScript
