import SpriteScript.Json.Document
import SpriteScript.Json.Printer

namespace SpriteScript

/-! What a reader makes of the characters of a printed tree: a text in quotes is read as that
text, and a word ends with the next mark. -/

namespace Token

theorem begin_of_word {char : Char} (inside : endsWord char = false) :
    Mode.begin char = ([], .word [char]) := by
  simp only [endsWord, Bool.or_eq_false_iff, Option.isSome_eq_false_iff, Option.isNone_iff_eq_none,
    decide_eq_false_iff_not] at inside
  rcases inside with ⟨⟨noMark, noSpace⟩, noQuote⟩
  simp [Mode.begin, noMark, noSpace, noQuote]

theorem endsWord_of_mark {char : Char} {token : Token} (mark : mark? char = some token) :
    endsWord char = true := by
  simp [endsWord, mark]

theorem begin_of_mark {char : Char} {token : Token} (mark : mark? char = some token) :
    Mode.begin char = ([token], .between) := by
  simp [Mode.begin, mark]

theorem endsWord_of_space {char : Char} (space : isSpace char = true) : endsWord char = true := by
  simp [endsWord, space]

theorem begin_of_space {char : Char} (space : isSpace char = true) :
    Mode.begin char = ([], .between) := by
  simp only [isSpace, Bool.or_eq_true, decide_eq_true_eq] at space
  rcases space with ((rfl | rfl) | rfl) | rfl <;> rfl

/-! ## Escapes -/

theorem hexDigit?_digitChar :
    ∀ digit < 16, hexDigit? (Nat.digitChar digit) = some digit := by
  decide

theorem addUnit_toNat {reversed : List Char} {char : Char} (control : char < ' ') :
    Content.addUnit ⟨some reversed, none⟩ char.toNat = ⟨some (char :: reversed), none⟩ := by
  have small : char.toNat < 32 := control
  have first : Content.isFirstHalf char.toNat = false := by
    simp [Content.isFirstHalf]
    omega
  have second : Content.isSecondHalf char.toNat = false := by
    simp [Content.isSecondHalf]
    omega
  simp [Content.addUnit, first, second, Char.ofNat_toNat]

end Token

namespace Document.Reader

def settled (reader : Reader) : State :=
  reader.mode.finish.foldl State.step reader.state

/-- Whether a reader is between words or in one, and in what state that word leaves it. -/
structure Settles (reader : Reader) (state : State) : Prop where
  resting : reader.mode = .between ∨ ∃ reversed, reader.mode = .word reversed
  settled : reader.settled = state

theorem settles_between (state : State) : Settles ⟨.between, state⟩ state := ⟨.inl rfl, rfl⟩

theorem Settles.step_mark {reader : Reader} {state : State} (settles : reader.Settles state)
    {char : Char} {token : Token} (mark : Token.mark? char = some token) :
    reader.step char = ⟨.between, state.step token⟩ := by
  rcases reader with ⟨mode, before⟩
  rcases settles with ⟨rfl | ⟨reversed, rfl⟩, rfl⟩
  · simp only [step, Token.Mode.step, Token.begin_of_mark mark]
    rfl
  · simp only [step, Token.Mode.step, Token.begin_of_mark mark, Token.endsWord_of_mark mark,
      if_true]
    rfl

theorem Settles.step_space {reader : Reader} {state : State} (settles : reader.Settles state)
    {char : Char} (space : Token.isSpace char = true) : reader.step char = ⟨.between, state⟩ := by
  rcases reader with ⟨mode, before⟩
  rcases settles with ⟨rfl | ⟨reversed, rfl⟩, rfl⟩
  · simp only [step, Token.Mode.step, Token.begin_of_space space]
    rfl
  · simp only [step, Token.Mode.step, Token.begin_of_space space, Token.endsWord_of_space space,
      if_true]
    rfl

theorem Settles.fold_blanks {reader : Reader} {state : State} (settles : reader.Settles state)
    {blanks : List Char} (spaces : ∀ char ∈ blanks, Token.isSpace char = true) :
    Settles (blanks.foldl step reader) state := by
  induction blanks generalizing reader with
  | nil => exact settles
  | cons char rest induction =>
      rcases List.forall_mem_cons.mp spaces with ⟨first, later⟩
      rw [List.foldl_cons, settles.step_space first]
      exact induction (settles_between state) later

theorem fold_blanks {blanks : List Char} (spaces : ∀ char ∈ blanks, Token.isSpace char = true)
    (state : State) : blanks.foldl step ⟨.between, state⟩ = ⟨.between, state⟩ := by
  induction blanks with
  | nil => rfl
  | cons char rest induction =>
      rcases List.forall_mem_cons.mp spaces with ⟨first, later⟩
      rw [List.foldl_cons, (settles_between state).step_space first]
      exact induction later

theorem Settles.finish {reader : Reader} {state : State} (settles : reader.Settles state) :
    reader.finish = state.finish :=
  congrArg State.finish settles.settled

theorem settles_word {word : List Char} (nonempty : word ≠ [])
    (inside : ∀ char ∈ word, Token.endsWord char = false) (state : State) :
    Settles (word.foldl step ⟨.between, state⟩) (state.step (Token.ofWord word)) := by
  have under (reversed rest : List Char) (inside : ∀ char ∈ rest, Token.endsWord char = false) :
      rest.foldl step ⟨.word reversed, state⟩ = ⟨.word (rest.reverse ++ reversed), state⟩ := by
    induction rest generalizing reversed with
    | nil => rfl
    | cons char rest induction =>
        rcases List.forall_mem_cons.mp inside with ⟨first, inside⟩
        have next : step ⟨.word reversed, state⟩ char = ⟨.word (char :: reversed), state⟩ := by
          simp [step, Token.Mode.step, first]
        rw [List.foldl_cons, next, induction _ inside, List.reverse_cons, List.append_assoc]
        rfl
  cases word with
  | nil => exact absurd rfl nonempty
  | cons char rest =>
      rcases List.forall_mem_cons.mp inside with ⟨first, inside⟩
      have begun : step ⟨.between, state⟩ char = ⟨.word [char], state⟩ := by
        simp [step, Token.Mode.step, Token.begin_of_word first]
      rw [List.foldl_cons, begun, under [char] rest inside]
      refine ⟨.inr ⟨_, rfl⟩, ?_⟩
      simp [settled, Token.Mode.finish]

/-! ## Texts -/

theorem read_escape (reversed : List Char) (char : Char) (state : State) :
    (Json.escape char).foldl step ⟨.plain ⟨some reversed, none⟩, state⟩ =
      ⟨.plain ⟨some (char :: reversed), none⟩, state⟩ := by
  have letter {letter : Char} (unit : letter ≠ 'u') (meant : Token.escaped? letter = some char) :
      ['\\', letter].foldl step ⟨.plain ⟨some reversed, none⟩, state⟩ =
        ⟨.plain ⟨some (char :: reversed), none⟩, state⟩ := by
    simp [step, Token.Mode.step, unit, meant, Token.Content.addChar]
  rw [Json.escape]
  -- The seven characters with a letter of their own.
  iterate 7
    split
    · next same =>
        subst same
        exact letter (by decide) rfl
  next quote backslash _ _ _ _ _ =>
  split
  · next control =>
      have small : char.toNat < 32 := control
      have upper := Token.hexDigit?_digitChar (char.toNat / 16) (by omega)
      have lower := Token.hexDigit?_digitChar (char.toNat % 16) (by omega)
      have zero : Token.hexDigit? '0' = some 0 := by decide
      have whole : 16 * (char.toNat / 16) + char.toNat % 16 = char.toNat :=
        Nat.div_add_mod char.toNat 16
      simp [step, Token.Mode.step, upper, lower, zero, whole, Token.addUnit_toNat control]
  · next visible =>
      simp [step, Token.Mode.step, quote, backslash, visible, Token.Content.addChar]

theorem read_quote (content : Option String) (state : State) :
    (Json.quote content).foldl step ⟨.between, state⟩ =
      ⟨.between, state.step (.text content)⟩ := by
  have opened : step ⟨.between, state⟩ '"' = ⟨.plain .empty, state⟩ := rfl
  cases content with
  | none => rfl
  | some content =>
      have inside (rest reversed : List Char) :
          (rest.flatMap Json.escape).foldl step ⟨.plain ⟨some reversed, none⟩, state⟩ =
            ⟨.plain ⟨some (rest.reverse ++ reversed), none⟩, state⟩ := by
        induction rest generalizing reversed with
        | nil => rfl
        | cons char rest induction =>
            rw [List.flatMap_cons, List.foldl_append, read_escape, induction, List.reverse_cons,
              List.append_assoc]
            rfl
      rw [Json.quote, List.cons_append, List.foldl_cons, opened, List.foldl_append,
        Token.Content.empty, inside]
      simp [step, Token.Mode.step, Token.Content.finish]

end Document.Reader

end SpriteScript
