import SpriteScript.Json.Basic

namespace SpriteScript

/-! Writing a tree: on one line without blanks, or with one entry a line. -/

namespace Json

/-! ## Texts -/

def escape (char : Char) : List Char :=
  if char = '"' then ['\\', '"']
  else if char = '\\' then ['\\', '\\']
  else if char = '\x08' then ['\\', 'b']
  else if char = '\x0c' then ['\\', 'f']
  else if char = '\n' then ['\\', 'n']
  else if char = '\r' then ['\\', 'r']
  else if char = '\t' then ['\\', 't']
  else if char < ' ' then
    ['\\', 'u', '0', '0', Nat.digitChar (char.toNat / 16), Nat.digitChar (char.toNat % 16)]
  else [char]

/-- A text in quotes. A missing text is written as half of a surrogate pair. -/
def quote (content : Option String) : List Char :=
  match content with
  | some content => '"' :: content.toList.flatMap escape ++ ['"']
  | none => ['"', '\\', 'u', 'd', '8', '0', '0', '"']

/-! ## Trees -/

mutual

def compact : Json → List Char
  | .null => ['n', 'u', 'l', 'l']
  | .bool true => ['t', 'r', 'u', 'e']
  | .bool false => ['f', 'a', 'l', 's', 'e']
  | .number numeral => numeral.chars
  | .text content => quote content
  | .array items => '[' :: compactItems items ++ [']']
  | .object entries => '{' :: compactEntries entries ++ ['}']
  | .broken => []

def compactItems : List Json → List Char
  | [] => []
  | [item] => item.compact
  | item :: rest => item.compact ++ ',' :: compactItems rest

def compactEntries : List (Option String × Json) → List Char
  | [] => []
  | [(key, value)] => quote key ++ ':' :: value.compact
  | (key, value) :: rest => quote key ++ ':' :: value.compact ++ ',' :: compactEntries rest

end

def toText (json : Json) : String :=
  .ofList json.compact

def newLine (depth : Nat) : List Char :=
  '\n' :: List.replicate (2 * depth) ' '

mutual

def indented (depth : Nat) : Json → List Char
  | .array [] => ['[', ']']
  | .array items => '[' :: indentedItems (depth + 1) items ++ newLine depth ++ [']']
  | .object [] => ['{', '}']
  | .object entries => '{' :: indentedEntries (depth + 1) entries ++ newLine depth ++ ['}']
  | leaf => leaf.compact

def indentedItems (depth : Nat) : List Json → List Char
  | [] => []
  | [item] => newLine depth ++ item.indented depth
  | item :: rest => newLine depth ++ item.indented depth ++ ',' :: indentedItems depth rest

def indentedEntries (depth : Nat) : List (Option String × Json) → List Char
  | [] => []
  | [(key, value)] => newLine depth ++ quote key ++ ':' :: ' ' :: value.indented depth
  | (key, value) :: rest =>
      newLine depth ++ quote key ++ ':' :: ' ' :: value.indented depth
        ++ ',' :: indentedEntries depth rest

end

def toIndentedText (json : Json) : String :=
  .ofList (json.indented 0)

example : (Json.record [("a", .array [.null, .string "\n"])]).toText =
    "\x7b\"a\":[null,\"\\n\"]\x7d" := by
  decide +kernel

end Json

end SpriteScript
