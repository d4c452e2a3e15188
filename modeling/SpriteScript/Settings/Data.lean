import SpriteScript.Json.Number
import SpriteScript.Json.Printer
import SpriteScript.Json.Record
import SpriteScript.Settings

namespace SpriteScript

/-! Settings as structured data. -/

namespace Settings

def toJson (settings : Settings) : Json :=
  .record
    [(names.pacing, .double settings.pacing),
      (names.moveDuration, .double settings.moveDuration),
      (names.turnDuration, .double settings.turnDuration),
      (names.glideDuration, .double settings.glideDuration),
      (names.scanInterval, .double settings.scanInterval),
      (names.reach, .single settings.reach),
      (names.cooldown, .double settings.cooldown),
      (names.spawnExtent, .single settings.spawnExtent)]

def toText (settings : Settings) : String := settings.toJson.toIndentedText

/-! ## Reading -/

structure Draft where
  pacing : Option Float
  moveDuration : Option Float
  turnDuration : Option Float
  glideDuration : Option Float
  scanInterval : Option Float
  reach : Option Float32
  cooldown : Option Float
  spawnExtent : Option Float32

namespace Draft

def empty : Draft := ⟨none, none, none, none, none, none, none, none⟩

private def double (name : String) (get : Draft → Option Float)
    (set : Draft → Float → Draft) : Field Fault Draft where
  name := name
  isFilled draft := (get draft).isSome
  fill draft tree := return set draft (← Reading.ofOption tree.asDouble?)

private def single (name : String) (get : Draft → Option Float32)
    (set : Draft → Float32 → Draft) : Field Fault Draft where
  name := name
  isFilled draft := (get draft).isSome
  fill draft tree := return set draft (← Reading.ofOption tree.asSingle?)

def fields : List (Field Fault Draft) :=
  [double names.pacing pacing fun draft value => { draft with pacing := some value },
    double names.moveDuration moveDuration fun draft value =>
      { draft with moveDuration := some value },
    double names.turnDuration turnDuration fun draft value =>
      { draft with turnDuration := some value },
    double names.glideDuration glideDuration fun draft value =>
      { draft with glideDuration := some value },
    double names.scanInterval scanInterval fun draft value =>
      { draft with scanInterval := some value },
    single names.reach reach fun draft value => { draft with reach := some value },
    double names.cooldown cooldown fun draft value => { draft with cooldown := some value },
    single names.spawnExtent spawnExtent fun draft value =>
      { draft with spawnExtent := some value }]

def finish (draft : Draft) : Settings where
  pacing := draft.pacing.getD standard.pacing
  moveDuration := draft.moveDuration.getD standard.moveDuration
  turnDuration := draft.turnDuration.getD standard.turnDuration
  glideDuration := draft.glideDuration.getD standard.glideDuration
  scanInterval := draft.scanInterval.getD standard.scanInterval
  reach := draft.reach.getD standard.reach
  cooldown := draft.cooldown.getD standard.cooldown
  spawnExtent := draft.spawnExtent.getD standard.spawnExtent

end Draft

def read (depth : Nat) (json : Json) : Reading Fault Settings := do
  return (← Field.fillAll Draft.fields depth .empty json).finish

/-- Reads settings from a text; only settings that can be used are accepted. -/
def ofText (text : String) : Reading Fault Settings := do
  let settings ← Reading.text (read Json.depthLimit) text
  match settings.validate with
  | .ok () => return settings
  | .error fault => .error (.rejected fault)

/-- The settings of a file given by its bytes. Without a file, or when it cannot
be read, the standard settings hold. -/
def ofFile (bytes? : Option ByteArray) : Settings :=
  match bytes?.bind String.fromUTF8? with
  | none => standard
  | some text =>
      match ofText text with
      | .ok settings => settings
      | .error _ => standard

end Settings

end SpriteScript
