import SpriteScript.Json.Basic
import SpriteScript.Json.Token

namespace SpriteScript

/-! Reading a text as a tree, one character and one token at a time. -/

/-- A tree read from a text; `ended` says that the text ends with the tree. -/
structure Document where
  tree : Json
  ended : Bool

namespace Document

/-- A container part way through, its contents in reverse order. -/
inductive Frame
  | array (items : List Json)
  | object (entries : List (Option String × Json))
  | entry (entries : List (Option String × Json)) (key : Option String)

inductive Expected
  | value
  | firstItem
  | key
  | firstKey
  | colon
  | separator

inductive State
  | reading (expected : Expected) (frames : List Frame)
  | stopped (document : Document)

namespace State

def start : State := .reading .value []

def place (tree : Json) : List Frame → State
  | [] => .stopped ⟨tree, true⟩
  | .array items :: frames => .reading .separator (.array (tree :: items) :: frames)
  | .entry entries key :: frames => .reading .separator (.object ((key, tree) :: entries) :: frames)
  | .object entries :: frames => .reading .separator (.object ((none, tree) :: entries) :: frames)

/-- Ends a container with a fault, and so all containers around it. -/
def breakOff (tree : Json) : List Frame → Json
  | [] => tree
  | .array items :: frames => breakOff (.array (tree :: items).reverse) frames
  | .object entries :: frames => breakOff (.object ((none, tree) :: entries).reverse) frames
  | .entry entries key :: frames => breakOff (.object ((key, tree) :: entries).reverse) frames

def fail (frames : List Frame) : State :=
  .stopped ⟨breakOff .broken frames, false⟩

def stepValue (frames : List Frame) : Token → State
  | .null => place .null frames
  | .bool value => place (.bool value) frames
  | .number numeral => place (.number numeral) frames
  | .text content => place (.text content) frames
  | .openArray => .reading .firstItem (.array [] :: frames)
  | .openObject => .reading .firstKey (.object [] :: frames)
  | _ => fail frames

def stepKey (frames : List Frame) (token : Token) : State :=
  match token, frames with
  | .text key, .object entries :: outer => .reading .colon (.entry entries key :: outer)
  | _, _ => fail frames

def closeArray (frames : List Frame) : State :=
  match frames with
  | .array items :: outer => place (.array items.reverse) outer
  | _ => fail frames

def closeObject (frames : List Frame) : State :=
  match frames with
  | .object entries :: outer => place (.object entries.reverse) outer
  | _ => fail frames

def step : State → Token → State
  | .stopped document, _ => .stopped ⟨document.tree, false⟩
  | .reading .value frames, token => stepValue frames token
  | .reading .firstItem frames, token =>
      match token with
      | .closeArray => closeArray frames
      | token => stepValue frames token
  | .reading .key frames, token => stepKey frames token
  | .reading .firstKey frames, token =>
      match token with
      | .closeObject => closeObject frames
      | token => stepKey frames token
  | .reading .colon frames, token =>
      match token with
      | .colon => .reading .value frames
      | _ => fail frames
  | .reading .separator frames, token =>
      match token, frames with
      | .comma, .array _ :: _ => .reading .value frames
      | .comma, .object _ :: _ => .reading .key frames
      | .closeArray, _ => closeArray frames
      | .closeObject, _ => closeObject frames
      | _, _ => fail frames

def finish : State → Document
  | .stopped document => document
  | .reading _ frames => ⟨breakOff .broken frames, false⟩

end State

/-! ## Texts -/

structure Reader where
  mode : Token.Mode
  state : State

namespace Reader

def start : Reader := ⟨.between, .start⟩

def step (reader : Reader) (char : Char) : Reader :=
  let (tokens, mode) := reader.mode.step char
  ⟨mode, tokens.foldl State.step reader.state⟩

def finish (reader : Reader) : Document :=
  (reader.mode.finish.foldl State.step reader.state).finish

end Reader

def ofChars (chars : List Char) : Document :=
  (chars.foldl Reader.step Reader.start).finish

def ofString (text : String) : Document := ofChars text.toList

example : (ofString "[1,\"a").tree.isWhole = false := by decide +kernel

end Document

end SpriteScript
