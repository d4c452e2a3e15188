namespace SpriteScript

/-! Decimal numerals: what a written number says, before any rounding. -/

/-! ## Digits -/

abbrev Digit := Fin 10

namespace Digit

instance base_neZero : @NeZero Nat Zero.ofOfNat0 10 := ⟨by decide⟩

def char (digit : Digit) : Char :=
  .ofNat ('0'.toNat + digit.val)

def ofChar? (char : Char) : Option Digit :=
  if '0' ≤ char ∧ char ≤ '9' then
    some (Fin.ofNat 10 (char.toNat - '0'.toNat))
  else
    none

example : ofChar? '7' = some 7 := by decide

example : ofChar? '٧' = none := by decide

end Digit

namespace Digits

/-- The number that a row of digits denotes, most significant digit first. -/
def value (digits : List Digit) : Nat :=
  digits.foldl (fun total digit => 10 * total + digit.val) 0

private def accumulate : Nat → Nat → List Digit → List Digit
  | 0, number, digits => Fin.ofNat 10 number :: digits
  | fuel + 1, number, digits =>
      if number < 10 then
        Fin.ofNat 10 number :: digits
      else
        accumulate fuel (number / 10) (Fin.ofNat 10 number :: digits)

def ofNat (number : Nat) : List Digit :=
  accumulate number number []

example : ofNat 0 = [0] := by decide

example : ofNat 2048 = [2, 0, 4, 8] := by decide

private theorem accumulate_append (fuel number : Nat) (digits : List Digit) :
    accumulate fuel number digits = accumulate fuel number [] ++ digits := by
  induction fuel generalizing number digits with
  | zero => rfl
  | succ fuel induction =>
      simp only [accumulate]
      split
      · rfl
      · rw [induction, induction _ [_], List.append_assoc]
        rfl

private theorem accumulate_fuel {fuel other number : Nat} (enough : number ≤ fuel)
    (alsoEnough : number ≤ other) : accumulate fuel number [] = accumulate other number [] := by
  induction fuel generalizing other number with
  | zero =>
      cases other with
      | zero => rfl
      | succ other => rw [accumulate, accumulate, if_pos (by omega)]
  | succ fuel induction =>
      cases other with
      | zero => rw [accumulate, accumulate, if_pos (by omega)]
      | succ other =>
          simp only [accumulate]
          split
          · rfl
          · have less : number / 10 ≤ fuel ∧ number / 10 ≤ other := by omega
            rw [accumulate_append, induction less.1 less.2, ← accumulate_append]

theorem ofNat_of_lt {number : Nat} (small : number < 10) :
    ofNat number = [Fin.ofNat 10 number] := by
  unfold ofNat
  cases number with
  | zero => rfl
  | succ number => rw [accumulate, if_pos small]

theorem ofNat_of_le {number : Nat} (large : 10 ≤ number) :
    ofNat number = ofNat (number / 10) ++ [Fin.ofNat 10 number] := by
  unfold ofNat
  cases number with
  | zero => omega
  | succ number =>
      have less : (number + 1) / 10 ≤ number := by omega
      rw [accumulate, if_neg (by omega), accumulate_append, accumulate_fuel less (Nat.le_refl _)]

def chars (digits : List Digit) : List Char :=
  digits.map Digit.char

def split : List Char → List Digit × List Char
  | [] => ([], [])
  | char :: rest =>
      match Digit.ofChar? char with
      | some digit =>
          let (digits, remainder) := split rest
          (digit :: digits, remainder)
      | none => ([], char :: rest)

example : split ['4', '2', 'e'] = ([4, 2], ['e']) := by decide

end Digits

/-! ## Numerals -/

structure Power where
  negative : Bool
  digits : List Digit
deriving DecidableEq

namespace Power

def ofInt (power : Int) : Power where
  negative := power < 0
  digits := Digits.ofNat power.natAbs

def toInt (power : Power) : Int :=
  if power.negative then -(Digits.value power.digits) else Digits.value power.digits

end Power

/-- A written number. An empty fraction is not written at all. -/
structure Numeral where
  negative : Bool
  whole : List Digit
  fraction : List Digit
  power : Option Power
deriving DecidableEq

namespace Numeral

def ofNat (number : Nat) : Numeral where
  negative := false
  whole := Digits.ofNat number
  fraction := []
  power := none

def chars (numeral : Numeral) : List Char :=
  (if numeral.negative then ['-'] else [])
    ++ Digits.chars numeral.whole
    ++ (if numeral.fraction.isEmpty then [] else '.' :: Digits.chars numeral.fraction)
    ++ (match numeral.power with
      | none => []
      | some power => 'e' :: (if power.negative then '-' else '+') :: Digits.chars power.digits)

example :
    (Numeral.mk true [1] [5] (some (.ofInt (-7)))).chars
      = ['-', '1', '.', '5', 'e', '-', '7'] := by decide

/-- The number whose value is nearest to the numeral; a half goes to the even
mantissa. -/
def nearest (numeral : Numeral) : Float :=
  let power := (numeral.power.map Power.toInt).getD 0 - numeral.fraction.length
  let magnitude :=
    Float.ofScientific (Digits.value (numeral.whole ++ numeral.fraction))
      (power < 0) power.natAbs
  if numeral.negative then -magnitude else magnitude

example : (Numeral.mk false [0] [1] none).nearest = 0.1 := by decide +kernel

end Numeral

end SpriteScript
