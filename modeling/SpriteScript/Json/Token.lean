import SpriteScript.Json.Quantity

namespace SpriteScript

/-! The words of structured data. -/

inductive Token
  | openArray
  | closeArray
  | openObject
  | closeObject
  | comma
  | colon
  | null
  | bool (value : Bool)
  | number (numeral : Numeral)
  | text (content : Option String)
  | bad
deriving DecidableEq

namespace Token

/-! ## Texts -/

/-- The characters of a text so far, last one first, and the first half of a
surrogate pair that waits for its second half. -/
structure Content where
  reversed : Option (List Char)
  half : Option Nat

namespace Content

def empty : Content := ⟨some [], none⟩

def lost : Content := ⟨none, none⟩

def addChar (content : Content) (char : Char) : Content :=
  match content with
  | ⟨some reversed, none⟩ => ⟨some (char :: reversed), none⟩
  | _ => lost

def isFirstHalf (unit : Nat) : Bool := 0xD800 ≤ unit && unit ≤ 0xDBFF

def isSecondHalf (unit : Nat) : Bool := 0xDC00 ≤ unit && unit ≤ 0xDFFF

def addUnit (content : Content) (unit : Nat) : Content :=
  match content with
  | ⟨none, _⟩ => lost
  | ⟨some reversed, some half⟩ =>
      if isSecondHalf unit then
        ⟨some (.ofNat (0x10000 + (half - 0xD800) * 0x400 + (unit - 0xDC00)) :: reversed), none⟩
      else
        lost
  | ⟨some reversed, none⟩ =>
      if isFirstHalf unit then ⟨some reversed, some unit⟩
      else if isSecondHalf unit then lost
      else ⟨some (.ofNat unit :: reversed), none⟩

def finish : Content → Option String
  | ⟨some reversed, none⟩ => some (.ofList reversed.reverse)
  | _ => none

end Content

def escaped? (letter : Char) : Option Char :=
  match letter with
  | '"' => some '"'
  | '\\' => some '\\'
  | '/' => some '/'
  | 'b' => some '\x08'
  | 'f' => some '\x0c'
  | 'n' => some '\n'
  | 'r' => some '\r'
  | 't' => some '\t'
  | _ => none

def hexDigit? (char : Char) : Option Nat :=
  if '0' ≤ char ∧ char ≤ '9' then some (char.toNat - '0'.toNat)
  else if 'a' ≤ char ∧ char ≤ 'f' then some (char.toNat - 'a'.toNat + 10)
  else if 'A' ≤ char ∧ char ≤ 'F' then some (char.toNat - 'A'.toNat + 10)
  else none

/-! ## Scanning, one character at a time -/

/-- Where a scan stands: between words, in a word (last character first), or in
a text: after a plain character, after a backslash, or before the last
`missing + 1` digits of a code unit. -/
inductive Mode
  | between
  | word (reversed : List Char)
  | plain (content : Content)
  | backslash (content : Content)
  | unit (content : Content) (missing : Nat) (value : Nat)

def ofWord (word : List Char) : Token :=
  if word = ['n', 'u', 'l', 'l'] then .null
  else if word = ['t', 'r', 'u', 'e'] then .bool true
  else if word = ['f', 'a', 'l', 's', 'e'] then .bool false
  else match Numeral.ofData? word with
    | some numeral => .number numeral
    | none => .bad

def mark? (char : Char) : Option Token :=
  match char with
  | '[' => some .openArray
  | ']' => some .closeArray
  | '{' => some .openObject
  | '}' => some .closeObject
  | ',' => some .comma
  | ':' => some .colon
  | _ => none

def isSpace (char : Char) : Bool :=
  char = ' ' || char = '\t' || char = '\n' || char = '\r'

def endsWord (char : Char) : Bool :=
  (mark? char).isSome || isSpace char || char = '"'

namespace Mode

def begin (char : Char) : List Token × Mode :=
  match mark? char with
  | some token => ([token], .between)
  | none =>
      if isSpace char then ([], .between)
      else if char = '"' then ([], .plain .empty)
      else ([], .word [char])

def step (mode : Mode) (char : Char) : List Token × Mode :=
  match mode with
  | .between => begin char
  | .word reversed =>
      if endsWord char then
        let (tokens, next) := begin char
        (ofWord reversed.reverse :: tokens, next)
      else
        ([], .word (char :: reversed))
  | .plain content =>
      if char = '"' then ([.text content.finish], .between)
      else if char = '\\' then ([], .backslash content)
      else if char < ' ' then ([.bad], .between)
      else ([], .plain (content.addChar char))
  | .backslash content =>
      if char = 'u' then
        ([], .unit content 3 0)
      else
        match escaped? char with
        | some meant => ([], .plain (content.addChar meant))
        | none => ([.bad], .between)
  | .unit content missing value =>
      match hexDigit? char with
      | none => ([.bad], .between)
      | some digit =>
          match missing with
          | 0 => ([], .plain (content.addUnit (16 * value + digit)))
          | missing + 1 => ([], .unit content missing (16 * value + digit))

def finish : Mode → List Token
  | .between => []
  | .word reversed => [ofWord reversed.reverse]
  | _ => [.bad]

end Mode

end Token

end SpriteScript
