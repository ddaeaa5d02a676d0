/-
This file reads a number of the 64-bit binary format as people type it: blanks around it, a
sign, digits of any script with or without a point and an exponent of ten, single underscores
between two digits, or one of the words for infinity and for no number.
-/

import BallotWatch.Decimal.Binary
import BallotWatch.Text.Numeral

namespace BallotWatch.Decimal

open Text

/-! ### Digits, point and exponent -/

/-- Digits of any script as digits of the ASCII set; other characters stay. -/
def plainDigit (c : Char) : Char :=
  match decimalDigit? c with
  | some value => Nat.digitChar value
  | none => c

/-- Leaves out the underscores between two digits. An underscore anywhere else spoils the
text. The flag tells whether a digit stands right before. -/
def ungrouped? (afterDigit : Bool) : List Char → Option (List Char)
  | [] => some []
  | '_' :: rest =>
    match rest with
    | [] => none
    | next :: _ => if afterDigit && next.isDigit then ungrouped? false rest else none
  | c :: rest => (ungrouped? c.isDigit rest).map (c :: ·)

/-- The whole number that plain digits stand for. -/
def plainValue (digits : List Char) : Nat :=
  Numeral.ofDigits 10 (digits.map fun c => c.toNat - '0'.toNat)

/-- The exponent after its letter, or zero where there is none. -/
def exponent? : List Char → Option Int
  | [] => some 0
  | letter :: rest =>
    if letter == 'e' || letter == 'E' then
      let (negative, digits) := Numeral.splitSign rest
      if digits.isEmpty || !digits.all Char.isDigit then none
      else
        let size : Int := plainValue digits
        some (if negative then -size else size)
    else none

/-- A number without a sign: digits, and after a point more digits, at least one in all, and an
exponent. -/
def unsigned? (negative : Bool) (text : List Char) : Option Binary :=
  let whole := text.takeWhile Char.isDigit
  let afterWhole := text.dropWhile Char.isDigit
  let (fraction, afterFraction) :=
    match afterWhole with
    | '.' :: rest => (rest.takeWhile Char.isDigit, rest.dropWhile Char.isDigit)
    | rest => ([], rest)
  if whole.isEmpty && fraction.isEmpty then none
  else
    (exponent? afterFraction).map fun exponent =>
      Binary.ofDecimal negative (plainValue (whole ++ fraction)) (exponent - fraction.length)

/-! ### Whole texts -/

/-- A number as typed. -/
def real? (text : List Char) : Option Binary :=
  let plain := (trimWhile isNumeralBlank text).map plainDigit
  let (negative, body) := Numeral.splitSign plain
  let word := String.ofList (body.map Char.toLower)
  if word == "inf" || word == "infinity" then some (.infinite negative)
  else if word == "nan" then some .notANumber
  else (ungrouped? false body).bind (unsigned? negative)

end BallotWatch.Decimal
