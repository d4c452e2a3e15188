namespace SpriteScript

/-! Label templates: literal text with placeholders in braces. A placeholder
name holds no brace; a brace that belongs to no placeholder stands for itself. -/

namespace Template

/-- A part of a template: one literal character or one placeholder. -/
inductive Piece
  | literal (char : Char)
  | placeholder (name : List Char)
deriving DecidableEq

namespace Piece

def source : Piece → List Char
  | .literal char => [char]
  | .placeholder name => '{' :: name ++ ['}']

def fill (value? : String → Option String) (piece : Piece) : List Char :=
  match piece with
  | .literal char => [char]
  | .placeholder name =>
      match value? (.ofList name) with
      | some value => value.toList
      | none => piece.source

end Piece

/-- Splits a template. While a brace is open, `opened` holds what follows it,
last character first. -/
def split (opened : Option (List Char)) : List Char → List Piece
  | [] =>
      match opened with
      | none => []
      | some name => .literal '{' :: name.reverse.map .literal
  | char :: rest =>
      match opened with
      | none =>
          if char = '{' then split (some []) rest else .literal char :: split none rest
      | some name =>
          if char = '}' then
            .placeholder name.reverse :: split none rest
          else if char = '{' then
            .literal '{' :: name.reverse.map .literal ++ split (some []) rest
          else
            split (some (char :: name)) rest

def pieces (template : List Char) : List Piece :=
  split none template

example : pieces "\x7b\x7ba\x7d\x7d".toList = [.literal '{', .placeholder ['a'], .literal '}'] := by
  decide +kernel

/-- The label that a template gives when placeholders take their values from
`value?`. A placeholder without a value stays as it is. -/
def render (template : String) (value? : String → Option String) : String :=
  .ofList ((pieces template.toList).flatMap (Piece.fill value?))

private theorem flatMap_source_literal (chars : List Char) :
    (chars.map Piece.literal).flatMap Piece.source = chars := by
  induction chars with
  | nil => rfl
  | cons char rest induction => simp [Piece.source, induction]

private theorem flatMap_source_literal_reverse (chars : List Char) :
    (chars.map Piece.literal).reverse.flatMap Piece.source = chars.reverse := by
  rw [← List.map_reverse, flatMap_source_literal]

/-- No character of a template is lost or moved. -/
theorem flatMap_source_split (opened : Option (List Char)) (template : List Char) :
    (split opened template).flatMap Piece.source
      = (match opened with
        | none => []
        | some name => '{' :: name.reverse) ++ template := by
  induction template generalizing opened with
  | nil => cases opened <;> simp [split, Piece.source, flatMap_source_literal_reverse]
  | cons char rest induction =>
      cases opened with
      | none =>
          by_cases opening : char = '{' <;>
            simp [split, opening, induction, Piece.source]
      | some name =>
          by_cases closing : char = '}'
          · simp [split, closing, induction, Piece.source]
          · by_cases opening : char = '{' <;>
              simp [split, closing, opening, induction, Piece.source,
                flatMap_source_literal_reverse]

theorem flatMap_source_pieces (template : List Char) :
    (pieces template).flatMap Piece.source = template := by
  simp [pieces, flatMap_source_split]

end Template

end SpriteScript
