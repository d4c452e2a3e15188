import SpriteScript.Play.Engine

namespace SpriteScript

/-! The detector: it looks for touching sprites at the points of a fixed grid of
times. Two sprites that touch trade their programs, and are locked for a while
so that they do not trade them back at once. -/

open Arithmetic

/-- A detector at work: the sprites that it observes and the next point of its
grid. -/
structure Detector.Watch (Time : Type) where
  sprites : List SpriteId
  nextScan : Time

structure Detector (Time : Type) where
  interval : Time
  reach : Float32
  cooldown : Time
  watch : Option (Detector.Watch Time)
  /-- The locks taken, oldest first, each with the time of its release. -/
  pending : List (Time × LockKey)

namespace Detector

def ofSettings (settings : Settings) : Except Fault (Detector Float) := do
  settings.validate
  return {
    interval := settings.scanInterval
    reach := settings.reach
    cooldown := settings.cooldown
    watch := none
    pending := [] }

variable {Time : Type}

def isWatching (detector : Detector Time) : Bool := detector.watch.isSome

def observed (detector : Detector Time) : List SpriteId :=
  match detector.watch with
  | some watch => watch.sprites
  | none => []

/-! ## Starting and stopping -/

/-- Observes sprites; the first scan is one interval away. A detector at work
keeps its grid. -/
def start [Clock Time] (detector : Detector Time) (sprites : List SpriteId) (now : Time) :
    Detector Time × Trace :=
  match detector.watch with
  | some watch =>
      ({ detector with watch := some { watch with sprites } }, [.watchReplaced sprites.length])
  | none =>
      ({ detector with watch := some ⟨sprites, now + detector.interval⟩ },
        [.watchStarted sprites.length])

/-- Scans no more; the locks are still released in time. -/
def stop (detector : Detector Time) : Detector Time × Trace :=
  match detector.watch with
  | some _ => ({ detector with watch := none }, [.watchStopped])
  | none => (detector, [])

/-! ## Scanning -/

def touching (reach : Float32) : List (SpriteId × Point Float32) → List (SpriteId × SpriteId)
  | [] => []
  | (id, position) :: rest =>
      (rest.filter fun other => id != other.1 && position.touches other.2 reach).map
          (fun other => (id, other.1))
        ++ touching reach rest

def places (stage : Stage) (sprites : List SpriteId) : List (SpriteId × Point Float32) :=
  sprites.filterMap fun id => (stage.sprite? id).map fun sprite => (id, sprite.position)

/-- Two sprites touch: unless they are locked, they are locked and trade their
programs. The answer is the number of trades. -/
def collide [Clock Time] (detector : Detector Time) (stage : Stage) (now : Time)
    (left right : SpriteId) : Turn (Detector Time) Nat :=
  let key := LockKey.of left right
  if stage.isLocked key then
    ⟨detector, stage, 0, []⟩
  else
    let trace : Trace :=
      [.acted (.lock key), .acted (.swapPrograms left right), .programsSwapped left right]
    { actor := { detector with pending := detector.pending ++ [(now + detector.cooldown, key)] }
      stage := stage.replay trace
      answer := 1
      trace }

def collideAll [Clock Time] (detector : Detector Time) (stage : Stage) (now : Time) :
    List (SpriteId × SpriteId) → Turn (Detector Time) Nat
  | [] => ⟨detector, stage, 0, []⟩
  | (left, right) :: rest =>
      let first := detector.collide stage now left right
      let others := collideAll first.actor first.stage now rest
      { others with
        answer := first.answer + others.answer
        trace := first.trace ++ others.trace }

def scan [Clock Time] (detector : Detector Time) (stage : Stage) (now : Time) :
    Turn (Detector Time) Nat :=
  detector.collideAll stage now (touching detector.reach (places stage detector.observed))

/-! ## Advancing -/

def isExpired [Clock Time] (now : Time) (entry : Time × LockKey) : Bool := entry.1 ≤ now

def release [Clock Time] (detector : Detector Time) (now : Time) : Detector Time × Trace :=
  let expired := detector.pending.filter (isExpired now)
  ({ detector with pending := detector.pending.filter fun entry => !isExpired now entry },
    expired.flatMap fun entry => [.acted (.unlock entry.2), .lockReleased entry.2])

/-- The first point of a grid after `now`, counted from a point that is not after
it. -/
def nextPoint [Clock Time] (interval point now : Time) : Time :=
  point + (Clock.floor ((now - point) / interval) + one) * interval

/-- Releases the locks whose time has come, then scans if a point of the grid is
reached. However many points were missed, there is one scan. -/
def advance [Clock Time] (detector : Detector Time) (stage : Stage) (now : Time) :
    Turn (Detector Time) Nat :=
  let (detector, released) := detector.release now
  let stage := stage.replay released
  match detector.watch with
  | some watch =>
      if watch.nextScan ≤ now then
        let nextScan := nextPoint detector.interval watch.nextScan now
        let scanned := { detector with watch := some { watch with nextScan } }.scan stage now
        { scanned with trace := released ++ scanned.trace }
      else
        ⟨detector, stage, 0, released⟩
  | none => ⟨detector, stage, 0, released⟩

end Detector

end SpriteScript
