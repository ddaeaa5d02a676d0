/-
This file reads whole numbers as people type them: blanks around the numeral, a sign, digits
of any script, and single underscores between digits to group them. A decimal numeral may have so
many digits and no more, whether it is read or written.
-/

import BallotWatch.Text.Blank
import BallotWatch.Text.Digit

namespace BallotWatch.Text.Numeral

/-! ### Digits -/

/-- The values of a run of digits in which single underscores may stand between two digits. -/
def groupedDigits? (digit? : Char → Option Nat) : List Char → Option (List Nat)
  | [] => none
  | c :: rest =>
    match digit? c with
    | none => none
    | some value =>
      match rest with
      | [] => some [value]
      | '_' :: after => (groupedDigits? digit? after).map (value :: ·)
      | rest => (groupedDigits? digit? rest).map (value :: ·)

/-- The number that digits stand for, the most significant first. -/
def ofDigits (base : Nat) (digits : List Nat) : Nat :=
  digits.foldl (fun number digit => number * base + digit) 0

/-! ### Hexadecimal -/

/-- A hexadecimal numeral after its mark: one underscore may stand before the digits, and
blanks after them. -/
def hexadecimal? (text : List Char) : Option Nat :=
  let digits :=
    match dropEndWhile isNumeralBlank text with
    | '_' :: rest => rest
    | rest => rest
  (groupedDigits? hexDigit? digits).map (ofDigits 16)

/-! ### Decimal -/

/-- The most digits a decimal numeral may have. -/
def digitLimit : Nat :=
  4300

/-- Whether a number is written with at most so many digits. -/
def fits : Nat → Nat → Bool
  | 0, number => number == 0
  | digits + 1, number => number == 0 || fits digits (number / 10)

/-- Whether a number can be written as a decimal numeral. -/
def isWritable (number : Int) : Bool :=
  fits digitLimit number.natAbs

/-- What is said where a number has too many digits to be written. -/
def unwritableMessage : String :=
  s!"Exceeds the limit ({digitLimit} digits) for integer string conversion; " ++
    "use sys.set_int_max_str_digits() to increase the limit"

/-- Takes a sign off the front of a numeral; the answer tells whether it was a minus. -/
def splitSign : List Char → Bool × List Char
  | '-' :: rest => (true, rest)
  | '+' :: rest => (false, rest)
  | rest => (false, rest)

/-- A decimal numeral with an optional sign and blanks around it. -/
def decimal? (text : List Char) : Option Int :=
  let (negative, digits) := splitSign (trimWhile isNumeralBlank text)
  match groupedDigits? decimalDigit? digits with
  | none => none
  | some values =>
    if values.length ≤ digitLimit then
      let number : Int := ofDigits 10 values
      some (if negative then -number else number)
    else none

end BallotWatch.Text.Numeral
