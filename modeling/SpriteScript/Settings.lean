import SpriteScript.Fault
import SpriteScript.Number.Layout

namespace SpriteScript

/-! Timings and thresholds. Times are in milliseconds. -/

structure Settings where
  pacing : Float
  moveDuration : Float
  turnDuration : Float
  glideDuration : Float
  scanInterval : Float
  /-- Sprites whose places are nearer than this touch. -/
  reach : Float32
  /-- How long two sprites that traded their programs are locked. -/
  cooldown : Float
  /-- New sprites appear at most this far from the middle on each axis. -/
  spawnExtent : Float32
deriving DecidableEq

namespace Settings

def standard : Settings where
  pacing := 50.0
  moveDuration := 500.0
  turnDuration := 300.0
  glideDuration := 500.0
  scanInterval := 100.0
  reach := 50.0
  cooldown := 1000.0
  spawnExtent := 100.0

structure Names where
  pacing : String
  moveDuration : String
  turnDuration : String
  glideDuration : String
  scanInterval : String
  reach : String
  cooldown : String
  spawnExtent : String

def names : Names where
  pacing := "pacing_ms"
  moveDuration := "move_duration_ms"
  turnDuration := "turn_duration_ms"
  glideDuration := "glide_duration_ms"
  scanInterval := "collision_tick_ms"
  reach := "collision_distance"
  cooldown := "collision_cooldown_ms"
  spawnExtent := "spawn_half_extent"

private def checkDuration (name : String) (value : Float) : Except SettingFault Unit :=
  if value.isFinite && !(value < 0.0) then
    .ok ()
  else
    .error (.notDuration name (Number.text value))

private def checkPositive (name : String) (value : Float) : Except SettingFault Unit :=
  if value.isFinite && !(value ≤ 0.0) then
    .ok ()
  else
    .error (.notPositive name (Number.text value))

private def checkPositiveLength (name : String) (value : Float32) : Except SettingFault Unit :=
  if value.isFinite && !(value ≤ 0.0) then
    .ok ()
  else
    .error (.notPositive name (Number.text value))

/-- Durations must be finite and not negative, all else finite and positive. The
first fault decides; durations come first. -/
def check (settings : Settings) : Except SettingFault Unit := do
  checkDuration names.pacing settings.pacing
  checkDuration names.moveDuration settings.moveDuration
  checkDuration names.turnDuration settings.turnDuration
  checkDuration names.glideDuration settings.glideDuration
  checkDuration names.cooldown settings.cooldown
  checkPositive names.scanInterval settings.scanInterval
  checkPositiveLength names.reach settings.reach
  checkPositiveLength names.spawnExtent settings.spawnExtent

def validate (settings : Settings) : Except Fault Unit :=
  match settings.check with
  | .ok () => .ok ()
  | .error cause => .error (.invalidSettings cause)

/-- Equality of settings; numbers are compared as numbers. -/
def same (left right : Settings) : Bool :=
  left.pacing == right.pacing && left.moveDuration == right.moveDuration
    && left.turnDuration == right.turnDuration && left.glideDuration == right.glideDuration
    && left.scanInterval == right.scanInterval && left.reach == right.reach
    && left.cooldown == right.cooldown && left.spawnExtent == right.spawnExtent

end Settings

end SpriteScript
