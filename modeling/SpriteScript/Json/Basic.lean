import SpriteScript.Number.Numeral

namespace SpriteScript

/-! Trees of structured data. A tree also stands for a text that breaks off or
goes wrong: `broken` marks the place, and the containers that were open there
end with it. So what comes before the fault can still be judged first. -/

/-- A number stays as it is written. A text is missing where an escape in it
names half of a surrogate pair. -/
inductive Json
  | null
  | bool (value : Bool)
  | number (numeral : Numeral)
  | text (content : Option String)
  | array (items : List Json)
  | object (entries : List (Option String × Json))
  | broken

namespace Json

def string (content : String) : Json :=
  .text (some content)

def natural (number : Nat) : Json :=
  .number (.ofNat number)

def record (entries : List (String × Json)) : Json :=
  .object (entries.map fun (key, value) => (some key, value))

/-! Whether a tree has no fault in it. -/

mutual

def isWhole : Json → Bool
  | .broken => false
  | .array items => areWhole items
  | .object entries => areWholeEntries entries
  | _ => true

def areWhole : List Json → Bool
  | [] => true
  | item :: rest => item.isWhole && areWhole rest

def areWholeEntries : List (Option String × Json) → Bool
  | [] => true
  | (_, value) :: rest => value.isWhole && areWholeEntries rest

end

example : (Json.array [.null, .object [(none, .broken)]]).isWhole = false := by decide

end Json

end SpriteScript
