/-
This file reads the number of a port from a setting. Blanks around it, a sign, zeros in front,
single underscores between digits and an empty fraction are accepted.

A sign may also stand behind zeros: what counts is the number that begins after them. Under a
minus in front no second sign is left standing.
-/

import BallotWatch.Text.Numeral

namespace BallotWatch.Port

open Text

/-! ### In front of the number -/

/-- Leaves out a plus sign, which no minus may follow. -/
def withoutPlus? : List Char → Option (List Char)
  | '+' :: '-' :: _ => none
  | '+' :: rest => some rest
  | text => some text

/-- Leaves out a minus sign, which no other sign may follow, and tells whether it was there. -/
def withoutMinus? : List Char → Option (Bool × List Char)
  | '-' :: '-' :: _ | '-' :: '+' :: _ => none
  | '-' :: rest => some (true, rest)
  | text => some (false, text)

/-- Whether a character can begin a number: a digit other than zero, or a minus sign. -/
def beginsNumber (c : Char) : Bool :=
  ('1' ≤ c && c ≤ '9') || c == '-'

/-- What is left behind the zeros and underscores of a text, where the last of them is given.
Before a point or the end, that last one stays. -/
def afterZeros? (last : Char) : List Char → Option (List Char)
  | [] => some [last]
  | c :: rest =>
    if c == '0' || c == '_' then afterZeros? c rest
    else if beginsNumber c then some (c :: rest)
    else if c == '.' then some (last :: c :: rest)
    else none

/-- Leaves out zeros in front, and underscores among them. -/
def withoutZeros? : List Char → Option (List Char)
  | [] => none
  | c :: rest =>
    if c == '0' then afterZeros? c rest
    else if beginsNumber c then some (c :: rest)
    else none

/-! ### In and behind the number -/

/-- Leaves out a point with zeros and nothing else after it. -/
def withoutFraction (text : List Char) : List Char :=
  match text.dropWhile (· != '.') with
  | '.' :: c :: rest =>
    if (c :: rest).all (· == '0') then text.takeWhile (· != '.') else text
  | _ => text

/-- Whether underscores stand next to each other. -/
def hasDoubleUnderscore : List Char → Bool
  | '_' :: '_' :: _ => true
  | _ :: rest => hasDoubleUnderscore rest
  | [] => false

/-- Leaves out underscores, where none stands at an end or beside another. -/
def withoutUnderscores (text : List Char) : List Char :=
  if text.head? == some '_' || text.getLast? == some '_' || hasDoubleUnderscore text then text
  else text.filter (· != '_')

/-- A number in plain digits, with no zero in front of another digit. -/
def plain? (text : List Char) : Option Int :=
  let (negative, digits) :=
    match text with
    | '-' :: rest => (true, rest)
    | rest => (false, rest)
  let wellFormed :=
    match digits with
    | [] => false
    | ['0'] => true
    | first :: rest => first != '0' && (first :: rest).all Char.isDigit
  if wellFormed then
    let size : Int := Numeral.ofDigits 10 (digits.map fun c => c.toNat - '0'.toNat)
    some (if negative then -size else size)
  else none

/-- The number of a port. -/
def read? (text : String) : Option Int := do
  let unsigned ← withoutPlus? (trimWhile isNumeralBlank text.toList)
  let (negative, size) ← withoutMinus? unsigned
  let significant ← withoutZeros? size
  let digits := withoutUnderscores (withoutFraction significant)
  plain? (if negative then '-' :: digits else digits)

end BallotWatch.Port
