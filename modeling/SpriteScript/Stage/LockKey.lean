import SpriteScript.Fault
import SpriteScript.Json.Printer
import SpriteScript.Json.Record

namespace SpriteScript

/-! Locks: pairs of sprites that may not trade their programs for now. -/

structure LockKey where
  first : SpriteId
  second : SpriteId
deriving DecidableEq

namespace LockKey

/-- The key of two sprites, whichever comes first. -/
def of (left right : SpriteId) : LockKey :=
  if left.number ≤ right.number then ⟨left, right⟩ else ⟨right, left⟩

theorem of_comm (left right : SpriteId) : of left right = of right left := by
  rcases left with ⟨left⟩
  rcases right with ⟨right⟩
  simp only [of, UInt32.le_iff_toNat_le]
  split <;> split
  · have equal : left = right := UInt32.toNat_inj.mp (by omega)
    rw [equal]
  · rfl
  · rfl
  · omega

def label (key : LockKey) : String := key.first.label ++ "-" ++ key.second.label

def involves (key : LockKey) (sprite : SpriteId) : Bool :=
  key.first == sprite || key.second == sprite

def isBefore (left right : LockKey) : Bool :=
  left.first.number < right.first.number
    || (left.first == right.first && left.second.number < right.second.number)

/-! ## Data -/

def toJson (key : LockKey) : Json :=
  .array [.natural key.first.number.toNat, .natural key.second.number.toNat]

def ofJson? (depth : Nat) (json : Json) : Option LockKey :=
  match json.asItems? depth with
  | some [first, second] => do
      let first ← first.asNatural? UInt32.size
      let second ← second.asNatural? UInt32.size
      return ⟨⟨.ofNat first⟩, ⟨.ofNat second⟩⟩
  | _ => none

/-- Reads a key as it stands; the sprites are not put in order. -/
def ofText (text : String) : Reading Fault LockKey :=
  Reading.text (fun json => Reading.ofOption (ofJson? Json.depthLimit json)) text

end LockKey

end SpriteScript
