import SpriteScript.Play.Run

namespace SpriteScript

/-! The engine: the runs of all sprites that play. -/

structure Turn (Actor Answer : Type) where
  actor : Actor
  stage : Stage
  answer : Answer
  trace : Trace

structure Engine where
  settings : Settings
  /-- In ascending order of the sprites. -/
  runs : List (SpriteId × Run)

namespace Engine

def ofSettings (settings : Settings) : Engine := ⟨settings, []⟩

def isRunning (engine : Engine) (id : SpriteId) : Bool :=
  engine.runs.any fun entry => entry.1 == id

def isIdle (engine : Engine) : Bool := engine.runs.isEmpty

def insertRun (id : SpriteId) (run : Run) : List (SpriteId × Run) → List (SpriteId × Run)
  | [] => [(id, run)]
  | entry :: rest =>
      if id.number < entry.1.number then (id, run) :: entry :: rest
      else if id = entry.1 then (id, run) :: rest
      else entry :: insertRun id run rest

def finish (id : SpriteId) : Trace :=
  [.acted (.setRunning id false), .runFinished id]

def failure (id : SpriteId) : Run.Status → Trace
  | .failed fault => [.runFailed id fault]
  | _ => []

def scene (settings : Settings) (stage : Stage) (id : SpriteId) (now : Float) : Run.Scene where
  settings := settings
  id := id
  sprite? := stage.sprite? id
  now := now

/-- Starts the program of a sprite; its first block starts at once. Nothing
happens for a sprite that is missing, that runs already or that has no program.
The answer says whether a run started. -/
def run (engine : Engine) (stage : Stage) (id : SpriteId) (now : Float) : Turn Engine Bool :=
  match stage.sprite? id with
  | none => ⟨engine, stage, false, [.spriteMissing id]⟩
  | some sprite =>
      if sprite.isRunning || sprite.program.isEmpty || engine.isRunning id then
        ⟨engine, stage, false, []⟩
      else
        let opening : Trace :=
          [.runStarted id sprite.program.length, .acted (.setRunning id true)]
        let begun := stage.replay opening
        let driven := (Run.ofProgram sprite.program).drive (scene engine.settings begun id now)
        match driven.status with
        | .going =>
            { actor := { engine with runs := insertRun id driven.run engine.runs }
              stage := begun.replay driven.trace
              answer := true
              trace := opening ++ driven.trace }
        | status =>
            let ending := driven.trace ++ failure id status ++ finish id
            { actor := engine
              stage := begun.replay ending
              answer := true
              trace := opening ++ ending }

/-! ## Advancing -/

/-- The runs after each of them moved on, in order; those that ended are left
out. -/
structure Pass where
  runs : List (SpriteId × Run)
  ended : List SpriteId
  stage : Stage
  trace : Trace

def driveAll (settings : Settings) (now : Float) (stage : Stage) :
    List (SpriteId × Run) → Pass
  | [] => ⟨[], [], stage, []⟩
  | (id, run) :: rest =>
      let driven := run.drive (scene settings stage id now)
      let trace := driven.trace ++ failure id driven.status
      let later := driveAll settings now (stage.replay trace) rest
      match driven.status with
      | .going =>
          { later with runs := (id, driven.run) :: later.runs, trace := trace ++ later.trace }
      | _ => { later with ended := id :: later.ended, trace := trace ++ later.trace }

def advance (engine : Engine) (stage : Stage) (now : Float) : Turn Engine (List SpriteId) :=
  let pass := driveAll engine.settings now stage engine.runs
  let ending := pass.ended.flatMap finish
  { actor := { engine with runs := pass.runs }
    stage := pass.stage.replay ending
    answer := pass.ended
    trace := pass.trace ++ ending }

/-! ## Stopping -/

/-- Marks a run, so that it ends when it is moved on next. -/
def stop (engine : Engine) (id : SpriteId) : Engine :=
  { engine with runs := engine.runs.map fun entry =>
      if entry.1 = id then (entry.1, entry.2.cancel) else entry }

def stopAll (engine : Engine) : Engine :=
  { engine with runs := engine.runs.map fun entry => (entry.1, entry.2.cancel) }

end Engine

end SpriteScript
