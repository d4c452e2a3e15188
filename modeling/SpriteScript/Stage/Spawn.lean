import SpriteScript.Motion.Point

namespace SpriteScript

/-! The random source for the places of new sprites: a permuted congruential
generator with 64 bits of state and 32 bits of output. -/

structure Generator where
  state : UInt64
  increment : UInt64
deriving DecidableEq

namespace Generator

def multiplier : UInt64 := 6364136223846793005

/-- The increment of the generator that spreads a seed over the state. -/
def seedIncrement : UInt64 := 11634580027462260723

/-- The output of a state: its upper bits, mixed and turned by its highest ones. -/
def output (state : UInt64) : UInt32 :=
  let mixed := (((state >>> 18) ^^^ state) >>> 27).toUInt32
  let turn := (state >>> 59).toUInt32
  (mixed >>> turn) ||| (mixed <<< (32 - turn))

example : output 0x8000000000000000 = 4 := by decide +kernel

private def seedStep (seed : UInt64) : UInt64 := seed * multiplier + seedIncrement

/-- Two outputs of the seed generator, the first one in the lower half. -/
private def seedWord (first second : UInt64) : UInt64 :=
  (output first).toUInt64 ||| ((output second).toUInt64 <<< 32)

def ofSeed (seed : UInt64) : Generator :=
  let first := seedStep seed
  let second := seedStep first
  let third := seedStep second
  let fourth := seedStep third
  let increment := seedWord third fourth ||| 1
  { state := (seedWord first second + increment) * multiplier + increment
    increment }

def next (generator : Generator) : UInt32 × Generator :=
  (output generator.state,
    { generator with state := generator.state * multiplier + generator.increment })

/-! ## Places -/

/-- Whether there is room for a place: the extent is positive, and the width of
the area is a finite number. -/
def hasRoom (extent : Float32) : Bool :=
  -extent < extent && (extent - -extent).isFinite

/-- A coordinate from `-extent` up to `extent`: the upper bits of an output, as
the fraction of a number from one up to two, are spread over the area. -/
def coordinate (extent : Float32) (generator : Generator) : Float32 × Generator :=
  let (bits, rest) := generator.next
  let unit := Float32.ofBits ((0x3F800000 : UInt32) ||| (bits >>> 9)) - 1.0
  (unit * (extent - -extent) + -extent, rest)

def place? (extent : Float32) (generator : Generator) : Option (Point Float32 × Generator) :=
  if hasRoom extent then
    let (x, generator) := generator.coordinate extent
    let (y, generator) := generator.coordinate extent
    some (⟨x, y⟩, generator)
  else
    none

end Generator

end SpriteScript
