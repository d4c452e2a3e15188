import SpriteScript.Json.Document
import SpriteScript.Json.Quantity

namespace SpriteScript

/-! Reading trees as values of known types.

A tree is judged in the order of its text, so that the first fault decides. The
number of containers that may still be opened is passed along; parts that
nobody asks for may be nested deeper, but they must be whole. -/

/-- Why a text is refused: it is not of the expected form, or what it says is
rejected for a cause of its own. -/
inductive Refusal (Cause : Type)
  | malformed
  | rejected (cause : Cause)
deriving DecidableEq

abbrev Reading (Cause α : Type) := Except (Refusal Cause) α

/-- The number of containers that may be open at one time. -/
def Json.depthLimit : Nat := 127

namespace Reading

variable {Cause α : Type}

def ofOption (value? : Option α) : Reading Cause α :=
  match value? with
  | some value => .ok value
  | none => .error .malformed

end Reading

namespace Json

def asString? : Json → Option String
  | .text content => content
  | _ => none

def asBool? : Json → Option Bool
  | .bool value => some value
  | _ => none

def asQuantity? : Json → Option Quantity
  | .number numeral => Quantity.ofNumeral? numeral
  | _ => none

def asDouble? (json : Json) : Option Float :=
  json.asQuantity?.map Quantity.toDouble

def asSingle? (json : Json) : Option Float32 :=
  json.asQuantity?.map Quantity.toSingle

def asNatural? (limit : Nat) (json : Json) : Option Nat :=
  match json.asQuantity? with
  | some (.natural value) => if value < limit then some value else none
  | _ => none

/-- A name: a text, or an object with the name as its only key and nothing
under it. -/
def asName? (depth : Nat) (json : Json) : Option String :=
  match depth, json with
  | _, .text content => content
  | _ + 1, .object [(key, .null)] => key
  | _, _ => none

def asItems? (depth : Nat) (json : Json) : Option (List Json) :=
  match depth, json with
  | _ + 1, .array items => some items
  | _, _ => none

def asEntries? (depth : Nat) (json : Json) : Option (List (Option String × Json)) :=
  match depth, json with
  | _ + 1, .object entries => some entries
  | _, _ => none

end Json

/-! ## Records -/

/-- A known field of a record: whether a draft has it, and how a tree fills it. -/
structure Field (Cause Draft : Type) where
  name : String
  isFilled : Draft → Bool
  fill : Draft → Json → Reading Cause Draft

namespace Field

variable {Cause Draft : Type}

/-- Fills the fields of a record from the entries of an object. Entries with
other keys do not count; a field that is filled twice is a fault. -/
def fillEntries (fields : List (Field Cause Draft)) :
    Draft → List (Option String × Json) → Reading Cause Draft
  | draft, [] => .ok draft
  | _, (none, _) :: _ => .error .malformed
  | draft, (some key, tree) :: rest =>
      match fields.find? fun field => field.name == key with
      | some field =>
          if field.isFilled draft then
            .error .malformed
          else
            match field.fill draft tree with
            | .ok draft => fillEntries fields draft rest
            | .error refusal => .error refusal
      | none => if tree.isWhole then fillEntries fields draft rest else .error .malformed

/-- Fills the fields of a record in order from the items of an array. There may
be fewer items than fields, but not more. -/
def fillItems : List (Field Cause Draft) → Draft → List Json → Reading Cause Draft
  | _, draft, [] => .ok draft
  | [], _, _ :: _ => .error .malformed
  | field :: fields, draft, tree :: rest =>
      match field.fill draft tree with
      | .ok draft => fillItems fields draft rest
      | .error refusal => .error refusal

def fillAll (fields : List (Field Cause Draft)) (depth : Nat) (draft : Draft) (json : Json) :
    Reading Cause Draft :=
  match depth, json with
  | _ + 1, .object entries => fillEntries fields draft entries
  | _ + 1, .array items => fillItems fields draft items
  | _, _ => .error .malformed

end Field

def Reading.list {Cause α : Type} (read : Json → Reading Cause α) :
    List Json → Reading Cause (List α)
  | [] => .ok []
  | item :: rest => do
      let first ← read item
      let others ← Reading.list read rest
      return first :: others

/-- Reads a whole text with `read`; nothing may follow the tree. -/
def Reading.text {Cause α : Type} (read : Json → Reading Cause α) (text : String) :
    Reading Cause α :=
  let document := Document.ofString text
  match read document.tree with
  | .error refusal => .error refusal
  | .ok value => if document.ended then .ok value else .error .malformed

end SpriteScript
