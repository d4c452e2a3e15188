import SpriteScript.Block.Definition
import SpriteScript.Fault
import SpriteScript.Text.Template

namespace SpriteScript

/-! Blocks: trees whose nodes have an identifier, a kind and inputs. -/

structure Block.Head where
  id : BlockId
  kind : BlockKind
  inputs : Inputs
deriving DecidableEq

inductive Block
  | plain (head : Block.Head)
  | container (head : Block.Head) (children : List Block)

namespace Block

def head : Block → Head
  | .plain head => head
  | .container head _ => head

def children? : Block → Option (List Block)
  | .plain _ => none
  | .container _ children => some children

def withHead (head : Head) : Block → Block
  | .plain _ => .plain head
  | .container _ children => .container head children

def id (block : Block) : BlockId := block.head.id

def kind (block : Block) : BlockKind := block.head.kind

def inputs (block : Block) : Inputs := block.head.inputs

def isContainer (block : Block) : Bool := block.children?.isSome

/-! ## Inputs -/

def input? (block : Block) (name : String) : Option InputValue :=
  (block.inputs.find? name).map Input.value

/-- Gives an input a new value; there is no result for a name that the block
does not have. -/
def setInput? (block : Block) (name : String) (value : InputValue) : Option Block :=
  if block.inputs.has name then
    some (block.withHead { block.head with inputs := block.inputs.setValue name value })
  else
    none

def text (block : Block) (name : String) : String :=
  ((block.input? name).map InputValue.shown).getD ""

def number (block : Block) (name : String) : Except Fault Float :=
  match (block.input? name).bind InputValue.asNumber? with
  | some value => .ok value
  | none => .error (.malformedInput block.id name (block.text name))

def label (block : Block) : String :=
  Template.render block.kind.definition.label fun name =>
    (block.input? name).map InputValue.shown

/-! ## Creation -/

def new (kind : BlockKind) (id : BlockId) : Block :=
  let head := ⟨id, kind, kind.definition.inputs⟩
  if kind.isContainer then .container head [] else .plain head

/-- Gives inputs new values in order; names that the block does not have do not
count. -/
def setInputs (block : Block) (values : List (String × InputValue)) : Block :=
  values.foldl (fun block entry => (block.setInput? entry.1 entry.2).getD block) block

def withInputs (kind : BlockKind) (values : List (String × InputValue)) (ids : BlockIds) :
    Block × BlockIds :=
  let (id, rest) := ids.take
  ((new kind id).setInputs values, rest)

/-! ## Children -/

def push (block child : Block) : Except Fault Block :=
  match block with
  | .plain head => .error (.notContainer head.id)
  | .container head children => .ok (.container head (children ++ [child]))

def remove (block : Block) (index : Nat) : Except Fault (Block × Block) :=
  match block with
  | .plain head => .error (.notContainer head.id)
  | .container head children =>
      match children[index]? with
      | some child => .ok (child, .container head (children.eraseIdx index))
      | none => .error (.indexOutOfRange index children.length)

/-! ## Whole trees -/

mutual

def size : Block → Nat
  | .plain _ => 1
  | .container _ children => 1 + sizes children

def sizes : List Block → Nat
  | [] => 0
  | block :: rest => block.size + sizes rest

end

mutual

/-- A copy with new identifiers, given to a block before its children. -/
def duplicate (ids : BlockIds) : Block → Block × BlockIds
  | .plain head =>
      let (id, rest) := ids.take
      (.plain { head with id }, rest)
  | .container head children =>
      let (id, rest) := ids.take
      let (copies, rest) := duplicates rest children
      (.container { head with id } copies, rest)

def duplicates (ids : BlockIds) : List Block → List Block × BlockIds
  | [] => ([], ids)
  | block :: others =>
      let (copy, rest) := duplicate ids block
      let (copies, rest) := duplicates rest others
      (copy :: copies, rest)

end

def Head.same (left right : Head) : Bool :=
  left.id == right.id && left.kind == right.kind && left.inputs.same right.inputs

mutual

/-- Equality of trees; numbers are compared as numbers. -/
def same : Block → Block → Bool
  | .plain left, .plain right => left.same right
  | .container left leftChildren, .container right rightChildren =>
      left.same right && areSame leftChildren rightChildren
  | _, _ => false

def areSame : List Block → List Block → Bool
  | [], [] => true
  | left :: leftRest, right :: rightRest => left.same right && areSame leftRest rightRest
  | _, _ => false

end

/-! ## Checked assembly -/

def Head.matchesSchema (head : Head) : Bool :=
  head.inputs.length == head.kind.definition.slots.length
    && head.kind.definition.names.all head.inputs.has

/-- Makes a block from parts that come from elsewhere. The inputs must be those
of its kind; only a container may have children, and it may leave them out. -/
def ofParts (head : Head) (children? : Option (List Block)) : Except Fault Block :=
  if !head.matchesSchema then
    .error (.schemaMismatch head.id head.kind)
  else if head.kind.isContainer then
    .ok (.container head (children?.getD []))
  else
    match children? with
    | none => .ok (.plain head)
    | some _ => .error (.notContainer head.id)

end Block

end SpriteScript
