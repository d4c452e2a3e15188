import SpriteScript.Text.Unprintable

namespace SpriteScript

/-! Quoted text for messages: quotes around it, and every character that would
not show as itself written as an escape. -/

namespace Text

def escape (char : Char) : List Char :=
  if char = '\x00' then ['\\', '0']
  else if char = '\t' then ['\\', 't']
  else if char = '\r' then ['\\', 'r']
  else if char = '\n' then ['\\', 'n']
  else if char = '\\' then ['\\', '\\']
  else if char = '"' then ['\\', '"']
  else if ' ' ≤ char ∧ char ≤ '~' then [char]
  else if isUnprintable char then
    ['\\', 'u', '{'] ++ Nat.toDigits 16 char.toNat ++ ['}']
  else [char]

def quoted (text : String) : String :=
  .ofList ('"' :: text.toList.flatMap escape ++ ['"'])

example : quoted "a\tb" = "\"a\\tb\"" := by decide +kernel

end Text

end SpriteScript
