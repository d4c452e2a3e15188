import SpriteScript.Settings
import SpriteScript.Stage.Event
import SpriteScript.Stage.Spawn
import SpriteScript.Stage.Sprite

namespace SpriteScript

/-! The stage: all sprites, the selected one, and the pairs that are locked. -/

structure Stage where
  /-- In order of creation. -/
  sprites : List Sprite
  /-- The sprite whose program is edited. -/
  active : SpriteId
  isPlaying : Bool
  /-- In ascending order, each key once. -/
  locks : List LockKey
  generator : Generator
  spawnExtent : Float32
  nextSprite : UInt32

namespace Stage

def firstSprite : SpriteId := ⟨1⟩

def withExtent (seed : UInt64) (extent : Float32) : Stage where
  sprites := [.new firstSprite "Cat" .origin]
  active := firstSprite
  isPlaying := false
  locks := []
  generator := .ofSeed seed
  spawnExtent := extent
  nextSprite := 2

def ofSeed (seed : UInt64) : Stage := withExtent seed Settings.standard.spawnExtent

/-! ## Looking up -/

def sprite? (stage : Stage) (id : SpriteId) : Option Sprite :=
  stage.sprites.find? fun sprite => sprite.id == id

def spriteIds (stage : Stage) : List SpriteId := stage.sprites.map Sprite.id

def activeSprite? (stage : Stage) : Option Sprite := stage.sprite? stage.active

def isLocked (stage : Stage) (key : LockKey) : Bool := stage.locks.contains key

/-! ## Actions -/

def changeFirst (id : SpriteId) (change : Sprite → Sprite) : List Sprite → List Sprite
  | [] => []
  | sprite :: rest =>
      if sprite.id = id then change sprite :: rest else sprite :: changeFirst id change rest

def changeSprite (stage : Stage) (id : SpriteId) (change : Sprite → Sprite) : Stage :=
  { stage with sprites := changeFirst id change stage.sprites }

def swapPrograms (stage : Stage) (left right : SpriteId) : Stage :=
  if left = right then
    stage
  else
    match stage.sprite? left, stage.sprite? right with
    | some leftSprite, some rightSprite =>
        (stage.changeSprite left fun sprite => { sprite with program := rightSprite.program })
          |>.changeSprite right fun sprite => { sprite with program := leftSprite.program }
    | _, _ => stage

def insertLock (key : LockKey) : List LockKey → List LockKey
  | [] => [key]
  | other :: rest =>
      if key = other then other :: rest
      else if key.isBefore other then key :: other :: rest
      else other :: insertLock key rest

def apply (stage : Stage) : Action → Stage
  | .setRunning id isRunning => stage.changeSprite id fun sprite => { sprite with isRunning }
  | .setPosition id position => stage.changeSprite id fun sprite => { sprite with position }
  | .setRotation id rotation => stage.changeSprite id fun sprite => { sprite with rotation }
  | .say id text duration => stage.changeSprite id fun sprite =>
      { sprite with sayText := text, sayDuration := duration }
  | .clearSay id => stage.changeSprite id fun sprite =>
      { sprite with sayText := "", sayDuration := 0.0 }
  | .think id text duration => stage.changeSprite id fun sprite =>
      { sprite with thinkText := text, thinkDuration := duration }
  | .clearThink id => stage.changeSprite id fun sprite =>
      { sprite with thinkText := "", thinkDuration := 0.0 }
  | .swapPrograms left right => stage.swapPrograms left right
  | .lock key => { stage with locks := insertLock key stage.locks }
  | .unlock key => { stage with locks := stage.locks.filter fun other => other != key }

def replay (stage : Stage) (trace : Trace) : Stage := trace.actions.foldl apply stage

/-! ## Sprites -/

/-- Adds a sprite at a random place. Without room for it there is no sprite, but
its number is used up. -/
def addSprite (stage : Stage) : Stage × Option SpriteId × Trace :=
  let id : SpriteId := ⟨stage.nextSprite⟩
  let stage := { stage with nextSprite := stage.nextSprite + 1 }
  match stage.generator.place? stage.spawnExtent with
  | none => (stage, none, [])
  | some (position, generator) =>
      let sprite := Sprite.new id s!"Sprite {id.number.toNat}" position
      ({ stage with sprites := stage.sprites ++ [sprite], generator }, some id,
        [.spriteAdded id position])

def select (stage : Stage) (id : SpriteId) : Except Fault Stage :=
  if (stage.sprite? id).isSome then .ok { stage with active := id } else .error (.spriteNotFound id)

/-! ## Editing the program of the active sprite -/

def program (stage : Stage) : Except Fault (List Block) :=
  match stage.activeSprite? with
  | some sprite => .ok sprite.program
  | none => .error (.spriteNotFound stage.active)

def withProgram (stage : Stage) (program : List Block) : Stage :=
  stage.changeSprite stage.active fun sprite => { sprite with program }

def blockAt (program : List Block) (index : Nat) : Except Fault Block :=
  match program[index]? with
  | some block => .ok block
  | none => .error (.indexOutOfRange index program.length)

def addBlock (stage : Stage) (block : Block) : Except Fault Stage := do
  let program ← stage.program
  return stage.withProgram (program ++ [block])

def removeBlock (stage : Stage) (index : Nat) : Except Fault (Block × Stage) := do
  let program ← stage.program
  let block ← blockAt program index
  return (block, stage.withProgram (program.eraseIdx index))

/-- Moves a block so that it stands at the index `target` afterwards. -/
def moveBlock (stage : Stage) (source target : Nat) : Except Fault Stage := do
  let program ← stage.program
  let block ← blockAt program source
  let _ ← blockAt program target
  return stage.withProgram ((program.eraseIdx source).insertIdx target block)

/-- Gives an input of a block a new value. The result says whether the block has
that input; nothing changes otherwise. -/
def setBlockInput (stage : Stage) (index : Nat) (name : String) (value : InputValue) :
    Except Fault (Bool × Stage) := do
  let program ← stage.program
  let block ← blockAt program index
  match block.setInput? name value with
  | some block => return (true, stage.withProgram (program.set index block))
  | none => return (false, stage)

def addChild (stage : Stage) (index : Nat) (child : Block) : Except Fault Stage := do
  let program ← stage.program
  let block ← blockAt program index
  let block ← block.push child
  return stage.withProgram (program.set index block)

end Stage

end SpriteScript
