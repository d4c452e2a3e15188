import SpriteScript.Block.Basic
import SpriteScript.Json.Number
import SpriteScript.Json.Printer
import SpriteScript.Json.Record

namespace SpriteScript

/-! Blocks as structured data. -/

/-! ## Writing -/

def InputValue.toJson : InputValue → Json
  | .number value => .double value
  | .text value => .string value

def Input.toJson (input : Input) : Json :=
  .record [("value_type", .string input.valueType.name), ("value", input.value.toJson)]

def Inputs.toJson (inputs : Inputs) : Json :=
  .record (inputs.map fun (name, input) => (name, input.toJson))

namespace Block

def Head.entries (head : Head) : List (String × Json) :=
  [("id", .natural head.id.number.toNat), ("kind", .string head.kind.name),
    ("inputs", head.inputs.toJson)]

mutual

def toJson : Block → Json
  | .plain head => .record head.entries
  | .container head children =>
      .record (head.entries ++ [("children", .array (toJsons children))])

def toJsons : List Block → List Json
  | [] => []
  | block :: rest => block.toJson :: toJsons rest

end

def toText (block : Block) : String := block.toJson.toText

end Block

/-! ## Reading -/

def InputValue.ofJson? (json : Json) : Option InputValue :=
  match json with
  | .number _ => json.asDouble?.map .number
  | .text (some content) => some (.text content)
  | _ => none

namespace Input

structure Draft where
  valueType : Option ValueType
  value : Option InputValue

def Draft.fields (depth : Nat) : List (Field Fault Draft) :=
  [{ name := "value_type"
     isFilled draft := draft.valueType.isSome
     fill draft tree := do
      let valueType ← Reading.ofOption ((tree.asName? depth).bind ValueType.ofName?)
      return { draft with valueType } },
   { name := "value"
     isFilled draft := draft.value.isSome
     fill draft tree := do
      let value ← Reading.ofOption (InputValue.ofJson? tree)
      return { draft with value } }]

def read (depth : Nat) (json : Json) : Reading Fault Input := do
  match ← Field.fillAll (Draft.fields (depth - 1)) depth ⟨none, none⟩ json with
  | ⟨some valueType, some value⟩ => return ⟨valueType, value⟩
  | _ => .error .malformed

end Input

namespace Inputs

/-- Reads inputs in order; of two inputs with one name the later one stays. -/
def readEntries (depth : Nat) : Inputs → List (Option String × Json) → Reading Fault Inputs
  | inputs, [] => .ok inputs
  | _, (none, _) :: _ => .error .malformed
  | inputs, (some name, tree) :: rest => do
      let input ← Input.read depth tree
      readEntries depth (inputs.insert name input) rest

def read (depth : Nat) (json : Json) : Reading Fault Inputs := do
  readEntries (depth - 1) [] (← Reading.ofOption (json.asEntries? depth))

end Inputs

namespace Block

structure Draft where
  id : Option BlockId
  kind : Option BlockKind
  inputs : Option Inputs
  children : Option (Option (List Block))

namespace Draft

def empty : Draft := ⟨none, none, none, none⟩

def fields (depth : Nat) (readChild : Json → Reading Fault Block) : List (Field Fault Draft) :=
  [{ name := "id"
     isFilled draft := draft.id.isSome
     fill draft tree := do
      let number ← Reading.ofOption (tree.asNatural? UInt64.size)
      return { draft with id := some ⟨.ofNat number⟩ } },
   { name := "kind"
     isFilled draft := draft.kind.isSome
     fill draft tree := do
      let kind ← Reading.ofOption ((tree.asName? depth).bind BlockKind.ofName?)
      return { draft with kind } },
   { name := "inputs"
     isFilled draft := draft.inputs.isSome
     fill draft tree := do
      let inputs ← Inputs.read depth tree
      return { draft with inputs } },
   { name := "children"
     isFilled draft := draft.children.isSome
     fill draft tree := do
      match tree with
      | .null => return { draft with children := some none }
      | _ =>
          let children ← Reading.list readChild (← Reading.ofOption (tree.asItems? depth))
          return { draft with children := some (some children) } }]

def finish : Draft → Reading Fault Block
  | ⟨some id, some kind, some inputs, children⟩ =>
      match ofParts ⟨id, kind, inputs⟩ (children.getD none) with
      | .ok block => .ok block
      | .error fault => .error (.rejected fault)
  | _ => .error .malformed

end Draft

/-- Reads a block; it is checked as soon as its own tree ends. A block opens one
container for itself and one for its children. -/
def read : Nat → Json → Reading Fault Block
  | depth + 2, json => do
      (← Field.fillAll (Draft.fields (depth + 1) (read depth)) (depth + 2) .empty json).finish
  | _, _ => .error .malformed

def ofText (text : String) : Reading Fault Block :=
  Reading.text (read Json.depthLimit) text

end Block

end SpriteScript
