import SpriteScript.Number.Binary

namespace SpriteScript

/-! Ordered arithmetic. Animations and scan schedules are written once, over
any numbers that have it: they run on binary numbers, and the same definitions
can be read over exact rational numbers. -/

class Arithmetic (α : Type) extends Add α, Sub α, Mul α, Div α, LT α, LE α where
  zero : α
  one : α
  decideLt : DecidableLT α
  decideLe : DecidableLE α

attribute [reducible, instance] Arithmetic.decideLt Arithmetic.decideLe

instance : Arithmetic Float where
  zero := 0.0
  one := 1.0
  decideLt := inferInstance
  decideLe := inferInstance

instance : Arithmetic Float32 where
  zero := 0.0
  one := 1.0
  decideLt := inferInstance
  decideLe := inferInstance

instance : Arithmetic Rat where
  zero := 0
  one := 1
  decideLt := inferInstance
  decideLe := inferInstance

/-- Numbers that measure time: they can be cut down to whole numbers. -/
class Clock (Time : Type) extends Arithmetic Time where
  floor : Time → Time

instance : Clock Float where
  floor := Number.floor

instance : Clock Rat where
  floor time := time.floor

/-- How a fraction of a span of time becomes a fraction of a distance. -/
class Fraction (Time Distance : Type) where
  along : Time → Distance

instance : Fraction Float Float32 where
  along := Number.single

instance : Fraction Rat Rat where
  along fraction := fraction

namespace Arithmetic

/-- The number of the unit interval that is nearest to `number`. What is
neither below nor above the interval is left alone. -/
def clampUnit [Arithmetic α] (number : α) : α :=
  let raised := if number < zero then zero else number
  if one < raised then one else raised

end Arithmetic

end SpriteScript
