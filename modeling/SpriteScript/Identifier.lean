namespace SpriteScript

/-! Identifiers of blocks and sprites. -/

structure BlockId where
  number : UInt64
deriving DecidableEq

namespace BlockId

def label (id : BlockId) : String := "block_" ++ toString id.number.toNat

end BlockId

structure SpriteId where
  number : UInt32
deriving DecidableEq

namespace SpriteId

def label (id : SpriteId) : String := "sprite" ++ toString id.number.toNat

end SpriteId

/-- The source of block identifiers: they are given out in ascending order. -/
structure BlockIds where
  next : UInt64
deriving DecidableEq

namespace BlockIds

def start : BlockIds := ⟨1⟩

def take (ids : BlockIds) : BlockId × BlockIds :=
  (⟨ids.next⟩, ⟨ids.next + 1⟩)

end BlockIds

end SpriteScript
