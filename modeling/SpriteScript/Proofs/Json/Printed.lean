import SpriteScript.Json.Record
import SpriteScript.Proofs.Json.Scan
import SpriteScript.Proofs.Number.Digits

namespace SpriteScript

/-! A printed tree is read as itself, with whatever blanks there are between its words, as long
as its numerals are in the grammar. -/

theorem Token.ofWord_of_ofData? {word : List Char} {numeral : Numeral}
    (spelled : Numeral.ofData? word = some numeral) : ofWord word = .number numeral := by
  have other {name : List Char} (none : Numeral.ofData? name = none) : word ≠ name := by
    intro same
    rw [same, none] at spelled
    cases spelled
  rw [ofWord, if_neg (other (by decide)), if_neg (other (by decide)), if_neg (other (by decide)),
    spelled]

theorem Numeral.inside_chars (numeral : Numeral) :
    ∀ char ∈ numeral.chars, Token.endsWord char = false := by
  have digits (row : List Digit) : ∀ char ∈ Digits.chars row, Token.endsWord char = false := by
    have digit (digit : Digit) : Token.endsWord digit.char = false := by
      revert digit
      decide
    exact List.forall_mem_map.mpr fun next _ => digit next
  intro char member
  simp only [chars, List.mem_append] at member
  rcases member with ((sign | whole) | fraction) | power
  · split at sign
    · cases List.mem_singleton.mp sign
      rfl
    · cases sign
  · exact digits _ char whole
  · split at fraction
    · cases fraction
    · rcases List.mem_cons.mp fraction with rfl | fraction
      · rfl
      · exact digits _ char fraction
  · split at power
    · cases power
    · rcases List.mem_cons.mp power with rfl | power
      · rfl
      rcases List.mem_cons.mp power with rfl | power
      · split <;> rfl
      · exact digits _ char power

namespace Json

/-! ## Trees that can be read -/

mutual

/-- Whether all numerals of a tree are in the grammar, and the tree has no fault in it. -/
def IsProper : Json → Prop
  | .number numeral => numeral.IsProper
  | .array items => AreProper items
  | .object entries => AreProperEntries entries
  | .broken => False
  | _ => True

def AreProper : List Json → Prop
  | [] => True
  | item :: rest => item.IsProper ∧ AreProper rest

def AreProperEntries : List (Option String × Json) → Prop
  | [] => True
  | (_, value) :: rest => value.IsProper ∧ AreProperEntries rest

end

theorem isProper_record {entries : List (String × Json)} :
    (record entries).IsProper ↔ ∀ entry ∈ entries, entry.2.IsProper := by
  rw [record, IsProper]
  induction entries with
  | nil => simp [AreProperEntries]
  | cons entry rest induction =>
      rw [List.map_cons, AreProperEntries, induction, List.forall_mem_cons]

theorem natural_isProper (number : Nat) : (natural number).IsProper :=
  Numeral.ofNat_isProper number

theorem asNatural?_natural {limit number : Nat} (small : limit ≤ Quantity.wordLimit)
    (below : number < limit) : (natural number).asNatural? limit = some number := by
  have quantity : (natural number).asQuantity? = some (.natural number) :=
    Quantity.ofNumeral?_ofNat (by omega)
  rw [asNatural?, quantity]
  simp [below]

/-! ## Blanks -/

/-- The blanks of a printed tree: before every item or entry and before the end of a container
at a depth, and before the value of an entry. -/
structure Spacing where
  line : Nat → List Char
  gap : List Char

structure Spacing.IsBlank (spacing : Spacing) : Prop where
  line : ∀ depth, ∀ char ∈ spacing.line depth, Token.isSpace char = true
  gap : ∀ char ∈ spacing.gap, Token.isSpace char = true

def spacedEntry (spacing : Spacing) (depth : Nat) (key : Option String) (value : List Char) :
    List Char :=
  spacing.line depth ++ quote key ++ ':' :: (spacing.gap ++ value)

mutual

def spaced (spacing : Spacing) (depth : Nat) : Json → List Char
  | .array [] => ['[', ']']
  | .array items => '[' :: spacedItems spacing (depth + 1) items ++ spacing.line depth ++ [']']
  | .object [] => ['{', '}']
  | .object entries =>
      '{' :: spacedEntries spacing (depth + 1) entries ++ spacing.line depth ++ ['}']
  | leaf => leaf.compact

def spacedItems (spacing : Spacing) (depth : Nat) : List Json → List Char
  | [] => []
  | [item] => spacing.line depth ++ item.spaced spacing depth
  | item :: rest =>
      spacing.line depth ++ item.spaced spacing depth ++ ',' :: spacedItems spacing depth rest

def spacedEntries (spacing : Spacing) (depth : Nat) : List (Option String × Json) → List Char
  | [] => []
  | [(key, value)] => spacedEntry spacing depth key (value.spaced spacing depth)
  | (key, value) :: rest =>
      spacedEntry spacing depth key (value.spaced spacing depth)
        ++ ',' :: spacedEntries spacing depth rest

end

def Spacing.none : Spacing := ⟨fun _ => [], []⟩

def Spacing.lines : Spacing := ⟨newLine, [' ']⟩

mutual

theorem compact_eq (depth : Nat) (json : Json) : json.compact = json.spaced .none depth := by
  match json with
  | .array [] => rfl
  | .array (item :: rest) =>
      rw [compact, spaced, compactItems_eq (depth + 1) (item :: rest)]
      · simp [Spacing.none]
      · simp
  | .object [] => rfl
  | .object (entry :: rest) =>
      rw [compact, spaced, compactEntries_eq (depth + 1) (entry :: rest)]
      · simp [Spacing.none]
      · simp
  | .null | .bool _ | .number _ | .text _ | .broken => rfl

theorem compactItems_eq (depth : Nat) (items : List Json) :
    compactItems items = spacedItems .none depth items := by
  match items with
  | [] => rfl
  | [item] =>
      rw [compactItems, spacedItems, compact_eq depth item]
      rfl
  | item :: next :: rest =>
      rw [compactItems, spacedItems, compact_eq depth item, compactItems_eq depth (next :: rest)]
      · rfl
      · simp
      · simp

theorem compactEntries_eq (depth : Nat) (entries : List (Option String × Json)) :
    compactEntries entries = spacedEntries .none depth entries := by
  match entries with
  | [] => rfl
  | [(key, value)] =>
      rw [compactEntries, spacedEntries, compact_eq depth value]
      rfl
  | (key, value) :: next :: rest =>
      rw [compactEntries, spacedEntries, compact_eq depth value,
        compactEntries_eq depth (next :: rest)]
      · rfl
      · simp
      · simp

end

mutual

theorem indented_eq (depth : Nat) (json : Json) :
    json.indented depth = json.spaced .lines depth := by
  match json with
  | .array [] => rfl
  | .array (item :: rest) =>
      rw [indented, spaced, indentedItems_eq (depth + 1) (item :: rest)]
      · rfl
      · simp
      · simp
  | .object [] => rfl
  | .object (entry :: rest) =>
      rw [indented, spaced, indentedEntries_eq (depth + 1) (entry :: rest)]
      · rfl
      · simp
      · simp
  | .null | .bool _ | .number _ | .text _ | .broken => rfl

theorem indentedItems_eq (depth : Nat) (items : List Json) :
    indentedItems depth items = spacedItems .lines depth items := by
  match items with
  | [] => rfl
  | [item] =>
      rw [indentedItems, spacedItems, indented_eq depth item]
      rfl
  | item :: next :: rest =>
      rw [indentedItems, spacedItems, indented_eq depth item, indentedItems_eq depth (next :: rest)]
      · rfl
      · simp
      · simp

theorem indentedEntries_eq (depth : Nat) (entries : List (Option String × Json)) :
    indentedEntries depth entries = spacedEntries .lines depth entries := by
  match entries with
  | [] => rfl
  | [(key, value)] =>
      rw [indentedEntries, spacedEntries, indented_eq depth value]
      rfl
  | (key, value) :: next :: rest =>
      rw [indentedEntries, spacedEntries, indented_eq depth value,
        indentedEntries_eq depth (next :: rest)]
      · rfl
      · simp
      · simp

end

theorem Spacing.none_isBlank : none.IsBlank :=
  ⟨fun _ => List.forall_mem_nil _, List.forall_mem_nil _⟩

theorem Spacing.lines_isBlank : lines.IsBlank where
  line depth := by
    refine List.forall_mem_cons.mpr ⟨by decide, ?_⟩
    intro char member
    rw [List.eq_of_mem_replicate member]
    decide
  gap := List.forall_mem_singleton.mpr (by decide)

end Json

/-! ## Reading -/

namespace Document

open Json

def State.Awaits (state : State) (frames : List Frame) : Prop :=
  ∀ token, token ≠ .closeArray → state.step token = stepValue frames token

theorem State.awaits_value (frames : List Frame) : Awaits (.reading .value frames) frames :=
  fun _ _ => rfl

theorem State.awaits_firstItem (frames : List Frame) :
    Awaits (.reading .firstItem frames) frames := by
  intro token other
  cases token <;> first | rfl | exact absurd rfl other

def State.AwaitsKey (state : State) (entries : List (Option String × Json))
    (frames : List Frame) : Prop :=
  ∀ key, state.step (.text key) = .reading .colon (.entry entries key :: frames)

namespace Reader

theorem settles_name {name : List Char} (nonempty : name ≠ [])
    (inside : ∀ char ∈ name, Token.endsWord char = false) {tree : Json} {state : State}
    {frames : List Frame} (awaits : state.Awaits frames)
    (value : Token.ofWord name ≠ .closeArray ∧
      State.stepValue frames (Token.ofWord name) = State.place tree frames) :
    Settles (name.foldl step ⟨.between, state⟩) (State.place tree frames) := by
  have settles := settles_word nonempty inside state
  rw [awaits _ value.1, value.2] at settles
  exact settles

theorem settles_number {numeral : Numeral} (proper : numeral.IsProper) {state : State}
    {frames : List Frame} (awaits : state.Awaits frames) :
    Settles (numeral.chars.foldl step ⟨.between, state⟩)
      (State.place (.number numeral) frames) := by
  have spelled := Token.ofWord_of_ofData? proper.ofData?_chars
  have nonempty : numeral.chars ≠ [] := by
    intro empty
    rw [empty] at spelled
    cases spelled
  refine settles_name nonempty numeral.inside_chars awaits ?_
  rw [spelled]
  exact ⟨by simp, rfl⟩

theorem settles_array (inner : List Char) {items : List Json} {state : State} (last : State)
    {frames : List Frame} (awaits : state.Awaits frames)
    (inside : Settles (inner.foldl step ⟨.between, .reading .firstItem (.array [] :: frames)⟩) last)
    (closed : last.step .closeArray = .place (.array items) frames) :
    Settles (('[' :: inner ++ [']']).foldl step ⟨.between, state⟩)
      (.place (.array items) frames) := by
  have opened : step ⟨.between, state⟩ '[' =
      ⟨.between, .reading .firstItem (.array [] :: frames)⟩ := by
    rw [(settles_between state).step_mark (rfl : Token.mark? '[' = some .openArray),
      awaits .openArray (by decide)]
    rfl
  rw [List.cons_append, List.foldl_cons, opened, List.foldl_append, List.foldl_cons,
    inside.step_mark (rfl : Token.mark? ']' = some .closeArray), closed]
  exact settles_between _

theorem settles_object (inner : List Char) {entries : List (Option String × Json)}
    {state : State} (last : State) {frames : List Frame} (awaits : state.Awaits frames)
    (inside : Settles (inner.foldl step ⟨.between, .reading .firstKey (.object [] :: frames)⟩) last)
    (closed : last.step .closeObject = .place (.object entries) frames) :
    Settles (('{' :: inner ++ ['}']).foldl step ⟨.between, state⟩)
      (.place (.object entries) frames) := by
  have opened : step ⟨.between, state⟩ '{' =
      ⟨.between, .reading .firstKey (.object [] :: frames)⟩ := by
    rw [(settles_between state).step_mark (rfl : Token.mark? '{' = some .openObject),
      awaits .openObject (by decide)]
    rfl
  rw [List.cons_append, List.foldl_cons, opened, List.foldl_append, List.foldl_cons,
    inside.step_mark (rfl : Token.mark? '}' = some .closeObject), closed]
  exact settles_between _

section Blanks

variable {spacing : Spacing} (blank : spacing.IsBlank)
include blank

theorem fold_line (depth : Nat) (state : State) :
    (spacing.line depth).foldl step ⟨.between, state⟩ = ⟨.between, state⟩ :=
  fold_blanks (blank.line depth) state

theorem settles_entry {value : Json} {chars : List Char}
    (reads : ∀ {state : State} {frames : List Frame}, state.Awaits frames →
      Settles (chars.foldl step ⟨.between, state⟩) (.place value frames))
    {state : State} {done : List (Option String × Json)} {frames : List Frame}
    (awaits : state.AwaitsKey done frames) (depth : Nat) (key : Option String) :
    Settles ((spacedEntry spacing depth key chars).foldl step ⟨.between, state⟩)
      (.reading .separator (.object ((key, value) :: done) :: frames)) := by
  have colon : step ⟨.between, .reading .colon (.entry done key :: frames)⟩ ':' =
      ⟨.between, .reading .value (.entry done key :: frames)⟩ := rfl
  rw [spacedEntry, List.foldl_append, List.foldl_append, fold_line blank, read_quote, awaits key,
    List.foldl_cons, colon, List.foldl_append, fold_blanks blank.gap]
  exact reads (State.awaits_value _)

mutual

/-- The text of a tree is read as the tree and put where a value was awaited. -/
theorem read_spaced (depth : Nat) (json : Json) (proper : json.IsProper) {state : State}
    {frames : List Frame} (awaits : state.Awaits frames) :
    Settles ((json.spaced spacing depth).foldl step ⟨.between, state⟩) (.place json frames) := by
  have inside {name : List Char} (plain : name.any Token.endsWord = false) :
      ∀ char ∈ name, Token.endsWord char = false := fun char member =>
    Bool.eq_false_iff.mpr (List.any_eq_false.mp plain char member)
  match json with
  | .null => exact settles_name (List.cons_ne_nil _ _) (inside rfl) awaits ⟨by decide, rfl⟩
  | .bool false => exact settles_name (List.cons_ne_nil _ _) (inside rfl) awaits ⟨by decide, rfl⟩
  | .bool true => exact settles_name (List.cons_ne_nil _ _) (inside rfl) awaits ⟨by decide, rfl⟩
  | .number numeral => exact settles_number proper awaits
  | .text content =>
      have text : (Json.text content).spaced spacing depth = quote content := rfl
      rw [text, read_quote, awaits (.text content) (by simp)]
      exact settles_between _
  | .array [] => exact settles_array [] _ awaits (settles_between _) rfl
  | .array (item :: rest) =>
      have inside := read_spacedItems (depth + 1) (item :: rest) (List.cons_ne_nil _ _) proper
        (State.awaits_firstItem (.array [] :: frames))
      rw [spaced, List.cons_append]
      · refine settles_array _ (.reading .separator
          (.array ((item :: rest).reverse ++ []) :: frames)) awaits ?_ ?_
        · rw [List.foldl_append]
          exact inside.fold_blanks (blank.line depth)
        · simp [State.step, State.closeArray]
      · simp
  | .object [] => exact settles_object [] _ awaits (settles_between _) rfl
  | .object (entry :: rest) =>
      have awaitsKey : State.AwaitsKey (.reading .firstKey (.object [] :: frames)) [] frames :=
        fun _ => rfl
      have inside := read_spacedEntries (depth + 1) (entry :: rest) (List.cons_ne_nil _ _) proper
        awaitsKey
      rw [spaced, List.cons_append]
      · refine settles_object _ (.reading .separator
          (.object ((entry :: rest).reverse ++ []) :: frames)) awaits ?_ ?_
        · rw [List.foldl_append]
          exact inside.fold_blanks (blank.line depth)
        · simp [State.step, State.closeObject]
      · simp
  | .broken => exact proper.elim

theorem read_spacedItems (depth : Nat) (items : List Json) (nonempty : items ≠ [])
    (proper : AreProper items) {state : State} {done : List Json} {frames : List Frame}
    (awaits : state.Awaits (.array done :: frames)) :
    Settles ((spacedItems spacing depth items).foldl step ⟨.between, state⟩)
      (.reading .separator (.array (items.reverse ++ done) :: frames)) := by
  match items with
  | [] => exact absurd rfl nonempty
  | [item] =>
      rw [spacedItems, List.foldl_append, fold_line blank]
      exact read_spaced depth item proper.1 awaits
  | item :: next :: rest =>
      have first := read_spaced depth item proper.1 awaits
      have comma : State.step (.place item (.array done :: frames)) .comma =
          .reading .value (.array (item :: done) :: frames) := rfl
      have later := read_spacedItems depth (next :: rest) (List.cons_ne_nil _ _) proper.2
        (State.awaits_value (.array (item :: done) :: frames))
      rw [spacedItems, List.foldl_append, List.foldl_append, fold_line blank, List.foldl_cons,
        first.step_mark (rfl : Token.mark? ',' = some .comma), comma, List.reverse_cons,
        List.append_assoc]
      · exact later
      · simp

theorem read_spacedEntries (depth : Nat) (entries : List (Option String × Json))
    (nonempty : entries ≠ []) (proper : AreProperEntries entries) {state : State}
    {done : List (Option String × Json)} {frames : List Frame}
    (awaits : state.AwaitsKey done frames) :
    Settles ((spacedEntries spacing depth entries).foldl step ⟨.between, state⟩)
      (.reading .separator (.object (entries.reverse ++ done) :: frames)) := by
  match entries with
  | [] => exact absurd rfl nonempty
  | [(key, value)] =>
      exact settles_entry blank (read_spaced depth value proper.1) awaits depth key
  | (key, value) :: next :: rest =>
      have first := settles_entry blank (read_spaced depth value proper.1) awaits depth key
      have comma : State.step
          (.reading .separator (.object ((key, value) :: done) :: frames)) .comma =
          .reading .key (.object ((key, value) :: done) :: frames) := rfl
      have awaitsNext : State.AwaitsKey (.reading .key (.object ((key, value) :: done) :: frames))
          ((key, value) :: done) frames := fun _ => rfl
      have later := read_spacedEntries depth (next :: rest) (List.cons_ne_nil _ _) proper.2
        awaitsNext
      rw [spacedEntries, List.foldl_append, List.foldl_cons,
        first.step_mark (rfl : Token.mark? ',' = some .comma), comma, List.reverse_cons,
        List.append_assoc]
      · exact later
      · simp

end

end Blanks

end Reader

theorem ofString_toText {json : Json} (proper : json.IsProper) :
    ofString json.toText = ⟨json, true⟩ := by
  have settles := Reader.read_spaced Spacing.none_isBlank 0 json proper (State.awaits_value [])
  rw [ofString, Json.toText, String.toList_ofList, ofChars, compact_eq 0]
  exact settles.finish

theorem ofString_toIndentedText {json : Json} (proper : json.IsProper) :
    ofString json.toIndentedText = ⟨json, true⟩ := by
  have settles := Reader.read_spaced Spacing.lines_isBlank 0 json proper (State.awaits_value [])
  rw [ofString, toIndentedText, String.toList_ofList, ofChars, indented_eq]
  exact settles.finish

end Document

end SpriteScript
