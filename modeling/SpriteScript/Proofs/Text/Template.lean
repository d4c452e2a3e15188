import Mathlib.Logic.ExistsUnique
import SpriteScript.Text.Template

namespace SpriteScript.Template

/-! The grammar of label templates. A template is read from the left: a placeholder is taken
where one stands, and a single character where none does. There is one such reading, and the
label is made from it piece by piece; a value that is filled in is not read again. -/

def IsName (name : List Char) : Prop := '{' ∉ name ∧ '}' ∉ name

def Opens (text : List Char) : Prop :=
  ∃ name rest, IsName name ∧ text = '{' :: name ++ '}' :: rest

/-- How a template falls into placeholders and single characters, from the left. -/
inductive Decomposes : List Char → List Piece → Prop
  | done : Decomposes [] []
  | placeholder (name rest : List Char) (pieces : List Piece) (isName : IsName name)
      (later : Decomposes rest pieces) :
      Decomposes ('{' :: name ++ '}' :: rest) (.placeholder name :: pieces)
  | literal (char : Char) (rest : List Char) (pieces : List Piece) (free : ¬Opens (char :: rest))
      (later : Decomposes rest pieces) : Decomposes (char :: rest) (.literal char :: pieces)

theorem isName_nil : IsName [] := ⟨List.not_mem_nil, List.not_mem_nil⟩

theorem isName_cons {char : Char} {name : List Char} :
    IsName (char :: name) ↔ (char ≠ '{' ∧ char ≠ '}') ∧ IsName name := by
  simp only [IsName, List.mem_cons, not_or, ne_eq, eq_comm (a := char)]
  exact and_and_and_comm

/-! ## The pieces of a template -/

theorem split_name {name : List Char} (isName : IsName name) (gathered rest : List Char) :
    split (some gathered) (name ++ rest) = split (some (name.reverse ++ gathered)) rest := by
  induction name generalizing gathered with
  | nil => rfl
  | cons char name induction =>
      rcases isName_cons.mp isName with ⟨⟨notOpen, notClose⟩, isName⟩
      rw [List.cons_append, split]
      simp only [notClose, notOpen, if_false]
      rw [induction isName, List.reverse_cons, List.append_assoc]
      rfl

theorem pieces_placeholder {name : List Char} (isName : IsName name) (rest : List Char) :
    pieces ('{' :: name ++ '}' :: rest) = .placeholder name :: pieces rest := by
  rw [pieces, List.cons_append, split, if_pos rfl, split_name isName, split, if_pos rfl]
  simp [pieces]

/-- A brace that is not closed stands for itself, and so do the characters after it. -/
theorem split_unclosed {text : List Char}
    (unclosed : ∀ name rest, IsName name → text ≠ name ++ '}' :: rest) (gathered : List Char) :
    split (some gathered) text =
      .literal '{' :: gathered.reverse.map .literal ++ split none text := by
  induction text generalizing gathered with
  | nil => simp [split]
  | cons char rest induction =>
      have notClose : char ≠ '}' := fun closes => unclosed [] rest isName_nil (by rw [closes]; rfl)
      by_cases opens : char = '{'
      · simp [split, opens]
      · have later : ∀ name others, IsName name → rest ≠ name ++ '}' :: others := by
          intro name others isName same
          have longer : IsName (char :: name) := isName_cons.mpr ⟨⟨opens, notClose⟩, isName⟩
          exact unclosed _ others longer (congrArg (List.cons char) same)
        have gathers : split (some gathered) (char :: rest) =
            split (some (char :: gathered)) rest := by simp [split, notClose, opens]
        have stands : split none (char :: rest) = .literal char :: split none rest := by
          simp [split, opens]
        rw [gathers, stands, induction later]
        simp

theorem pieces_literal {char : Char} {rest : List Char} (free : ¬Opens (char :: rest)) :
    pieces (char :: rest) = .literal char :: pieces rest := by
  by_cases opens : char = '{'
  · have unclosed : ∀ name others, IsName name → rest ≠ name ++ '}' :: others := by
      intro name others isName same
      exact free ⟨name, others, isName, by rw [opens, same]; rfl⟩
    rw [pieces, split, if_pos opens, split_unclosed unclosed, opens]
    rfl
  · rw [pieces, split, if_neg opens]
    rfl

theorem decomposes_pieces (template : List Char) : Decomposes template (pieces template) := by
  by_cases opens : Opens template
  · rcases opens with ⟨name, rest, isName, same⟩
    rw [same, pieces_placeholder isName]
    exact .placeholder name rest _ isName (decomposes_pieces rest)
  · match template with
    | [] => exact .done
    | char :: rest =>
        rw [pieces_literal opens]
        exact .literal char rest _ opens (decomposes_pieces rest)
termination_by template.length
decreasing_by
  · simp [same]
    omega
  · exact Nat.lt_succ_self _

theorem Decomposes.eq_pieces {template : List Char} {found : List Piece}
    (decomposes : Decomposes template found) : found = pieces template := by
  induction decomposes with
  | done => rfl
  | placeholder name rest found isName _ induction => rw [pieces_placeholder isName, induction]
  | literal char rest found free _ induction => rw [pieces_literal free, induction]

/-! ## Labels -/

/-- Whatever stands before an open brace, the brace begins a reading of its own. -/
theorem split_append (opened : Option (List Char)) (left right : List Char) :
    split opened (left ++ '{' :: right) = split opened left ++ split none ('{' :: right) := by
  induction left generalizing opened with
  | nil => cases opened <;> simp [split]
  | cons char rest induction =>
      cases opened with
      | none => by_cases opens : char = '{' <;> simp [split, opens, induction]
      | some name =>
          by_cases closes : char = '}'
          · simp [split, closes, induction]
          · by_cases opens : char = '{' <;> simp [split, closes, opens, induction]

theorem pieces_around {name : List Char} (isName : IsName name) (left right : List Char) :
    pieces (left ++ ('{' :: name ++ '}' :: right)) =
      pieces left ++ .placeholder name :: pieces right := by
  rw [← pieces_placeholder isName]
  exact split_append none left _

theorem fill_none (piece : Piece) : piece.fill (fun _ => none) = piece.source := by
  cases piece <;> rfl

theorem render_none (template : String) : render template (fun _ => none) = template := by
  have kept : (pieces template.toList).flatMap (Piece.fill fun _ => none) = template.toList := by
    rw [funext fill_none]
    exact flatMap_source_pieces _
  rw [render, kept, String.ofList_toList]

theorem toList_fill (value? : String → Option String) (name : String) :
    Piece.fill value? (.placeholder name.toList) =
      ((value? name).getD ("\x7b" ++ name ++ "\x7d")).toList := by
  rw [Piece.fill, String.ofList_toList]
  cases value? name with
  | some value => rfl
  | none => simp [Piece.source]

theorem render_around (value? : String → Option String) {name : String}
    (isName : IsName name.toList) (left right : String) :
    render (left ++ ("\x7b" ++ name ++ "\x7d") ++ right) value? =
      render left value? ++ (value? name).getD ("\x7b" ++ name ++ "\x7d") ++
        render right value? := by
  have chars : (left ++ ("\x7b" ++ name ++ "\x7d") ++ right).toList =
      left.toList ++ ('{' :: name.toList ++ '}' :: right.toList) := by
    simp
  rw [render, chars, pieces_around isName, List.flatMap_append, List.flatMap_cons, toList_fill]
  simp [render, String.append_assoc]

/-- A template falls in one way into placeholders and single characters, and its label puts
these together: a placeholder with a value becomes the value, and all else stays. So a template
without values is its own label. A value goes into the label as it is, whatever braces it
holds, and what stands before and after its placeholder is rendered by itself. -/
theorem render_fills_decomposition (template : String) (value? : String → Option String) :
    (∃! pieces, Decomposes template.toList pieces) ∧
      (∀ pieces, Decomposes template.toList pieces →
        pieces.flatMap Piece.source = template.toList ∧
          render template value? = .ofList (pieces.flatMap (Piece.fill value?))) ∧
      render template (fun _ => none) = template ∧
      ∀ left name right : String, IsName name.toList →
        render (left ++ ("\x7b" ++ name ++ "\x7d") ++ right) value? =
          render left value? ++ (value? name).getD ("\x7b" ++ name ++ "\x7d") ++
            render right value? := by
  refine ⟨⟨pieces template.toList, decomposes_pieces _, fun _ found => found.eq_pieces⟩, ?_,
    render_none template, fun left name right isName => render_around value? isName left right⟩
  intro found decomposes
  rw [decomposes.eq_pieces]
  exact ⟨flatMap_source_pieces _, rfl⟩

example : render "\x7b\x7ba\x7d \x7d \x7ba\x7bb\x7d" (fun name =>
      if name = "a" then some "\x7bb\x7d" else if name = "b" then some "1" else none) =
    "\x7b\x7bb\x7d \x7d \x7ba1" := by
  decide +kernel

end SpriteScript.Template
