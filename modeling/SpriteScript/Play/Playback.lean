import SpriteScript.Play.Detector

namespace SpriteScript

/-! Playback: the engine and the detector under one button. -/

structure Playback where
  engine : Engine
  detector : Detector Float

namespace Playback

def ofSettings (settings : Settings) : Except Fault Playback := do
  return ⟨.ofSettings settings, ← Detector.ofSettings settings⟩

/-- The end of playback. Locks stay until they are released. -/
def windDown (playback : Playback) (stage : Stage) : Turn Playback Unit :=
  let (detector, stopped) := playback.detector.stop
  { actor := { playback with detector }
    stage := { stage with isPlaying := false }
    answer := ()
    trace := stopped ++ if stage.isPlaying then [.playbackEnded] else [] }

def runAll (engine : Engine) (stage : Stage) (now : Float) :
    List SpriteId → Turn Engine Nat
  | [] => ⟨engine, stage, 0, []⟩
  | id :: rest =>
      let first := engine.run stage id now
      let others := runAll first.actor first.stage now rest
      { others with
        answer := (if first.answer then 1 else 0) + others.answer
        trace := first.trace ++ others.trace }

def play (playback : Playback) (stage : Stage) (now : Float) : Turn Playback Unit :=
  if stage.isPlaying then
    ⟨playback, stage, (), []⟩
  else
    let ids := stage.spriteIds
    let (detector, watched) := playback.detector.start ids now
    let started := runAll playback.engine { stage with isPlaying := true } now ids
    let playing : Playback := ⟨started.actor, detector⟩
    let trace := watched ++ started.trace ++ [.playbackStarted started.answer ids.length]
    if started.actor.isIdle then
      let ended := playing.windDown started.stage
      { ended with trace := trace ++ ended.trace }
    else
      ⟨playing, started.stage, (), trace⟩

def stop (playback : Playback) (stage : Stage) (now : Float) : Turn Playback Unit :=
  let advanced := playback.engine.stopAll.advance stage now
  let ended := windDown { playback with engine := advanced.actor } advanced.stage
  { ended with trace := advanced.trace ++ ended.trace }

def toggle (playback : Playback) (stage : Stage) (now : Float) : Turn Playback Bool :=
  let turn := if stage.isPlaying then playback.stop stage now else playback.play stage now
  { turn with answer := turn.stage.isPlaying }

/-- One frame. The detector goes on after the end of playback, so that locks are
released. The answer says whether the stage still plays. -/
def frame (playback : Playback) (stage : Stage) (now : Float) : Turn Playback Bool :=
  let advanced := playback.engine.advance stage now
  let scanned := playback.detector.advance advanced.stage now
  let next : Playback := ⟨advanced.actor, scanned.actor⟩
  let trace := advanced.trace ++ scanned.trace
  if scanned.stage.isPlaying && advanced.actor.isIdle then
    let ended := next.windDown scanned.stage
    { ended with answer := false, trace := trace ++ ended.trace }
  else
    ⟨next, scanned.stage, scanned.stage.isPlaying, trace⟩

def isSettled (playback : Playback) (stage : Stage) : Bool :=
  playback.engine.isIdle && playback.detector.pending.isEmpty && stage.locks.isEmpty

end Playback

end SpriteScript
