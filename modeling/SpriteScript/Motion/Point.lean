namespace SpriteScript

/-! Places on the stage, directions and touching. -/

structure Point (Distance : Type) where
  x : Distance
  y : Distance
deriving DecidableEq

namespace Point

def origin : Point Float32 := ⟨0.0, 0.0⟩

def isFinite (point : Point Float32) : Bool :=
  point.x.isFinite && point.y.isFinite

def advance (point direction : Point Float32) (length : Float32) : Point Float32 :=
  ⟨point.x + direction.x * length, point.y + direction.y * length⟩

def distance (left right : Point Float32) : Float32 :=
  let x := left.x - right.x
  let y := left.y - right.y
  (x * x + y * y).sqrt

def touches (left right : Point Float32) (reach : Float32) : Bool :=
  left.distance right < reach

example : touches ⟨0.0, 0.0⟩ ⟨3.0, 4.0⟩ 5.0 = false := by decide +kernel

end Point

namespace Heading

/-- One degree in radians. -/
def degree : Float32 := .ofBits 0x3C8EFA35

/-- The direction of a rotation in degrees; no rotation points along `x`. -/
def direction (rotation : Float32) : Point Float32 :=
  let radians := rotation * degree
  ⟨radians.cos, radians.sin⟩

end Heading

end SpriteScript
