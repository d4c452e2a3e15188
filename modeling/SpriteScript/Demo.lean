import SpriteScript.Play.Rollout
import SpriteScript.Settings.Data

namespace SpriteScript

/-! A demonstration: two sprites walk towards each other and trade their
programs when they meet. -/

namespace Demo

structure Report where
  exitCode : Nat
  output : String
deriving DecidableEq

/-- Ten minutes of frames. -/
def frameLimit : Nat := 60 * 60 * 10

def seed : UInt64 := 0x5EED

private def walk (ids : BlockIds) : Except Fault (Block × BlockIds) := do
  let (passes, ids) ← (Block.create "repeat" [("times", .number 3.0)] ids).1
  let (step, ids) := Block.withInputs .moveSteps [] ids
  return (← passes.push step, ids)

def programs : Except Fault (List Block × List Block) := do
  let (catWalk, ids) ← walk .start
  let (bump, ids) ← (Block.create "say" [("text", .text "Bump!"), ("seconds", .text "1")] ids).1
  let (turn, ids) := Block.withInputs .turnDegrees [("degrees", .number 180.0)] ids
  let (dogWalk, ids) ← walk ids
  let (wonder, _) := Block.withInputs .think [] ids
  return ([catWalk, bump], [turn, dogWalk, wonder])

private def addBlocks (stage : Stage) (blocks : List Block) : Except Fault Stage :=
  blocks.foldlM Stage.addBlock stage

/-- The stage before playing; there is none without room for a second sprite. -/
def scene? (extent : Float32) : Except Fault (Option Stage) := do
  let (catProgram, dogProgram) ← programs
  let stage := Stage.withExtent seed extent
  let cat := stage.active
  let stage := stage.apply (.setPosition cat ⟨-50.0, 0.0⟩)
  let stage ← addBlocks stage catProgram
  match stage.addSprite with
  | (_, none, _) => return none
  | (stage, some dog, _) => do
      let stage := stage.apply (.setPosition dog ⟨50.0, 0.0⟩)
      let stage ← stage.select dog
      let stage ← addBlocks stage dogProgram
      return some (← stage.select cat)

/-! ## Printing -/

def blockLine (depth : Nat) (block : Block) : String :=
  .ofList (List.replicate (2 * depth) ' ') ++ block.label
    ++ " [" ++ block.kind.category.name ++ "]"

mutual

def blockLines (depth : Nat) : Block → List String
  | .plain head => [blockLine depth (.plain head)]
  | .container head children =>
      blockLine depth (.container head children) :: blocksLines (depth + 1) children

def blocksLines (depth : Nat) : List Block → List String
  | [] => []
  | block :: rest => blockLines depth block ++ blocksLines depth rest

end

def programLines (sprite : Sprite) : List String :=
  s!"{sprite.name} ({sprite.id.label}):" :: blocksLines 1 sprite.program

def placeLine (sprite : Sprite) : String :=
  let x := Number.fixed 1 sprite.position.x
  let y := Number.fixed 1 sprite.position.y
  let rotation := Number.fixed 1 sprite.rotation
  s!"{sprite.name}: position ({x}, {y}) rotation {rotation} blocks {sprite.blockCount}"

private def joined (lines : List String) : String :=
  lines.foldl (fun text line => text ++ line ++ "\n") ""

/-! ## Playing -/

/-- The stage after the demonstration. What still plays at the last frame is
stopped. -/
def play (playback : Playback) (stage : Stage) : Stage :=
  let started := playback.play stage 0.0
  let rollout := started.actor.rollOut started.stage 0.0 Rollout.frameInterval frameLimit
  if rollout.stage.isPlaying then
    (rollout.actor.stop rollout.stage rollout.now).stage
  else
    rollout.stage

def crashed : Report := ⟨101, ""⟩

def run (settings : Settings) : Report :=
  match scene? settings.spawnExtent with
  | .error _ => ⟨1, ""⟩
  | .ok none => crashed
  | .ok (some stage) =>
      let listing := stage.sprites.flatMap programLines
      match Playback.ofSettings settings with
      | .error _ => ⟨1, joined listing⟩
      | .ok playback =>
          let places := (play playback stage).sprites.map placeLine
          ⟨0, joined (listing ++ [""] ++ places)⟩

end Demo

end SpriteScript
