import SpriteScript.Play.Repetition
import SpriteScript.Stage.Basic

namespace SpriteScript

/-! Runs: a sprite on its way through a program.

A run holds the lists of blocks that it is inside of, and what it waits for. It
keeps the program that it started with; changes of the sprite's program do not
reach it. One call of `drive` moves it on as far as it can go at one time: it
starts at most one block that takes time. -/

structure Run.Frame where
  body : List Block
  rest : List Block
  /-- The passes left, with the current one. -/
  passesLeft : Nat

inductive Run.Wait
  | ready
  | animating (tween : Tween Float Float32)
  | speaking (bubble : Bubble) (deadline : Float)
  | pacing (deadline : Float)

structure Run where
  frames : List Run.Frame
  wait : Run.Wait
  isCancelled : Bool
  startedCount : Nat

namespace Run

def ofProgram (program : List Block) : Run where
  frames := [⟨program, program, 1⟩]
  wait := .ready
  isCancelled := false
  startedCount := 0

/-! ## The next block -/

inductive Next
  | block (block : Block) (frames : List Frame)
  /-- A repeat block went through its last pass. -/
  | passesDone (frames : List Frame)
  | programDone

def next : List Frame → Next
  | [] => .programDone
  | frame :: outer =>
      match frame.rest, frame.body, frame.passesLeft with
      | block :: rest, body, passesLeft => .block block (⟨body, rest, passesLeft⟩ :: outer)
      | [], block :: rest, passesLeft + 2 =>
          .block block (⟨block :: rest, rest, passesLeft + 1⟩ :: outer)
      | [], _, _ => if outer.isEmpty then .programDone else .passesDone outer

/-! ## Starting a block -/

/-- Where and when a block starts. The sprite is missing if the stage does not
have it. -/
structure Scene where
  settings : Settings
  id : SpriteId
  sprite? : Option Sprite
  now : Float

namespace Scene

def pause (scene : Scene) : Wait := .pacing (scene.now + scene.settings.pacing)

def animate (scene : Scene) (block : Block) (isReachable : Bool) (motion : Motion Float32)
    (duration : Float) : Except Fault Wait :=
  if isReachable then
    .ok (.animating ⟨motion, scene.now, duration⟩)
  else
    .error (.unreachableTarget scene.id block.label)

end Scene

def readNumber (block : Block) (name : String) : Option Float × Trace :=
  match block.number name with
  | .ok value => (some value, [])
  | .error fault => (none, [.blockSkipped block.kind fault])

/-- Shows a bubble for some seconds. A bubble for no time is shown and cleared at
once. -/
def speak (scene : Scene) (block : Block) (bubble : Bubble) : Except Fault Wait × Trace :=
  match readNumber block "seconds" with
  | (none, skipped) => (.ok scene.pause, skipped)
  | (some seconds, _) =>
      let asked := seconds * 1000.0
      let duration := if 0.0 < asked then asked else 0.0
      let fill := Event.acted (bubble.fill scene.id (block.text "text") duration)
      if 0.0 < duration then
        (.ok (.speaking bubble (scene.now + duration)), [fill])
      else
        (.ok scene.pause, [fill, .acted (bubble.clear scene.id)])

/-- Starts a block that is not entered: what the run waits for then, or why the
run fails, and what happens. -/
def startAlone (scene : Scene) (block : Block) : Except Fault Wait × Trace :=
  match block.kind with
  | .moveSteps =>
      match readNumber block "steps", scene.sprite? with
      | (some steps, _), some sprite =>
          let direction := Heading.direction sprite.rotation
          let target := sprite.position.advance direction (Number.single steps)
          (scene.animate block target.isFinite (.slide sprite.position target)
            scene.settings.moveDuration, [])
      | (_, skipped), _ => (.ok scene.pause, skipped)
  | .turnDegrees =>
      match readNumber block "degrees", scene.sprite? with
      | (some degrees, _), some sprite =>
          let target := sprite.rotation + Number.single degrees
          (scene.animate block target.isFinite (.spin sprite.rotation target)
            scene.settings.turnDuration, [])
      | (_, skipped), _ => (.ok scene.pause, skipped)
  | .goToXY =>
      match readNumber block "x", readNumber block "y", scene.sprite? with
      | (some x, _), (some y, _), some sprite =>
          let target : Point Float32 := ⟨Number.single x, Number.single y⟩
          (scene.animate block target.isFinite (.slide sprite.position target)
            scene.settings.glideDuration, [])
      | (_, skippedX), (_, skippedY), _ => (.ok scene.pause, skippedX ++ skippedY)
  | .repeatTimes => (.ok scene.pause, (readNumber block "times").2)
  | .say => speak scene block .speech
  | .think => speak scene block .thought

structure Started where
  frames : List Frame
  wait : Except Fault Wait
  trace : Trace

/-- Starts a block. A repeat block with a pass to go and a child is entered, and
its first child starts at once. -/
def start (scene : Scene) (frames : List Frame) (block : Block) : Started :=
  match block with
  | .container head (first :: rest) =>
      let block := Block.container head (first :: rest)
      if head.kind = .repeatTimes ∧ 0 < block.passes then
        let inner := start scene (⟨first :: rest, rest, block.passes⟩ :: frames) first
        { inner with trace := .blockStarted scene.id block :: inner.trace }
      else
        let (wait, trace) := startAlone scene block
        ⟨frames, wait, .blockStarted scene.id block :: trace⟩
  | .container head [] =>
      let (wait, trace) := startAlone scene (.container head [])
      ⟨frames, wait, .blockStarted scene.id (.container head []) :: trace⟩
  | .plain head =>
      let (wait, trace) := startAlone scene (.plain head)
      ⟨frames, wait, .blockStarted scene.id (.plain head) :: trace⟩

/-! ## Moving on -/

inductive Status
  | going
  | ended
  | failed (fault : Fault)
deriving DecidableEq

structure Driven where
  run : Run
  status : Status
  trace : Trace

/-- The next block starts, or the list that the run is inside of ends. -/
def proceed (run : Run) (scene : Scene) : Driven :=
  match next run.frames with
  | .block block frames =>
      let started := start scene frames block
      let startedCount := run.startedCount + started.trace.startedBlocks.length
      match started.wait with
      | .ok wait =>
          ⟨{ run with frames := started.frames, wait, startedCount }, .going, started.trace⟩
      | .error fault =>
          ⟨{ run with frames := [], wait := .ready, startedCount }, .failed fault, started.trace⟩
  | .passesDone frames => ⟨{ run with frames, wait := scene.pause }, .going, []⟩
  | .programDone => ⟨{ run with frames := [], wait := .ready }, .ended, []⟩

def abandon (run : Run) (id : SpriteId) : Trace :=
  match run.wait with
  | .speaking bubble _ => [.acted (bubble.clear id)]
  | _ => []

/-- Moves a run on. A run that waits for a moment that has not come stays as it
is. -/
def drive (run : Run) (scene : Scene) : Driven :=
  if run.isCancelled then
    ⟨{ run with frames := [], wait := .ready }, .ended,
      .runStopped scene.id run.startedCount :: run.abandon scene.id⟩
  else
    match run.wait with
    | .ready => run.proceed scene
    | .animating tween =>
        let wait := if tween.isDone scene.now then scene.pause else run.wait
        ⟨{ run with wait }, .going, [.acted ((tween.sample scene.now).toAction scene.id)]⟩
    | .speaking bubble deadline =>
        if scene.now < deadline then
          ⟨run, .going, []⟩
        else
          ⟨{ run with wait := scene.pause }, .going, [.acted (bubble.clear scene.id)]⟩
    | .pacing deadline =>
        if scene.now < deadline then ⟨run, .going, []⟩ else run.proceed scene

def cancel (run : Run) : Run := { run with isCancelled := true }

end Run

end SpriteScript
