import SpriteScript.Block.Data
import SpriteScript.Stage.Sprite

namespace SpriteScript

/-! Sprites as structured data. -/

namespace Point

def toJson (point : Point Float32) : Json :=
  .array [.single point.x, .single point.y]

def ofJson? (depth : Nat) (json : Json) : Option (Point Float32) :=
  match json.asItems? depth with
  | some [x, y] => do return ⟨← x.asSingle?, ← y.asSingle?⟩
  | _ => none

end Point

namespace Sprite

def toJson (sprite : Sprite) : Json :=
  .record
    [("id", .natural sprite.id.number.toNat),
      ("name", .string sprite.name),
      ("position", sprite.position.toJson),
      ("rotation", .single sprite.rotation),
      ("blocks", .array (Block.toJsons sprite.program)),
      ("say_text", .string sprite.sayText),
      ("say_duration_ms", .double sprite.sayDuration),
      ("think_text", .string sprite.thinkText),
      ("think_duration_ms", .double sprite.thinkDuration),
      ("is_running", .bool sprite.isRunning)]

def toText (sprite : Sprite) : String := sprite.toJson.toText

/-! ## Reading -/

structure Draft where
  id : Option SpriteId
  name : Option String
  position : Option (Point Float32)
  rotation : Option Float32
  program : Option (List Block)
  sayText : Option String
  sayDuration : Option Float
  thinkText : Option String
  thinkDuration : Option Float
  isRunning : Option Bool

namespace Draft

def empty : Draft := ⟨none, none, none, none, none, none, none, none, none, none⟩

private def field (name : String) (get : Draft → Option α) (set : Draft → α → Draft)
    (read : Json → Reading Fault α) : Field Fault Draft where
  name := name
  isFilled draft := (get draft).isSome
  fill draft tree := return set draft (← read tree)

private def leaf (read? : Json → Option α) (tree : Json) : Reading Fault α :=
  Reading.ofOption (read? tree)

def fields (depth : Nat) : List (Field Fault Draft) :=
  [field "id" id (fun draft value => { draft with id := some value })
      (leaf fun tree => (tree.asNatural? UInt32.size).map fun number => ⟨.ofNat number⟩),
    field "name" name (fun draft value => { draft with name := some value })
      (leaf Json.asString?),
    field "position" position (fun draft value => { draft with position := some value })
      (leaf (Point.ofJson? depth)),
    field "rotation" rotation (fun draft value => { draft with rotation := some value })
      (leaf Json.asSingle?),
    field "blocks" program (fun draft value => { draft with program := some value })
      fun tree => do
        Reading.list (Block.read (depth - 1)) (← Reading.ofOption (tree.asItems? depth)),
    field "say_text" sayText (fun draft value => { draft with sayText := some value })
      (leaf Json.asString?),
    field "say_duration_ms" sayDuration
      (fun draft value => { draft with sayDuration := some value })
      (leaf Json.asDouble?),
    field "think_text" thinkText (fun draft value => { draft with thinkText := some value })
      (leaf Json.asString?),
    field "think_duration_ms" thinkDuration
      (fun draft value => { draft with thinkDuration := some value }) (leaf Json.asDouble?),
    field "is_running" isRunning (fun draft value => { draft with isRunning := some value })
      (leaf Json.asBool?)]

def finish (draft : Draft) : Option Sprite := do
  return {
    id := ← draft.id
    name := ← draft.name
    position := ← draft.position
    rotation := ← draft.rotation
    program := ← draft.program
    sayText := ← draft.sayText
    sayDuration := ← draft.sayDuration
    thinkText := ← draft.thinkText
    thinkDuration := ← draft.thinkDuration
    isRunning := ← draft.isRunning }

end Draft

def read (depth : Nat) (json : Json) : Reading Fault Sprite := do
  Reading.ofOption (← Field.fillAll (Draft.fields (depth - 1)) depth .empty json).finish

def ofText (text : String) : Reading Fault Sprite :=
  Reading.text (read Json.depthLimit) text

end Sprite

end SpriteScript
