/-
This file reads and writes the numbers and byte strings of a node's answers. Both are texts
behind the mark of hexadecimal. A number may have its digits grouped by underscores and blanks
after them; a byte string may have blanks between its pairs of digits.
-/

import BallotWatch.Bytes.Hex
import BallotWatch.Json.Shown
import BallotWatch.Text.Numeral

namespace BallotWatch.Node

/-! ### What can be wrong with a value -/

/-- Why a value is no number or no byte string. -/
inductive ValueFault
  | noQuantity (field : String) (value : Json)
  | badQuantity (field : String) (value : Json)
  | noData (value : Json)
  | badData (text : String)
  deriving Repr

/-- How much of a bad byte string a message shows. -/
def shownLength : Nat :=
  20

/-- The fault in words. -/
def ValueFault.message : ValueFault → String
  | noQuantity field value =>
    s!"expected hex quantity for {Text.quoted field}, got {value.shown}"
  | badQuantity field value =>
    s!"invalid hex quantity for {Text.quoted field}: {value.shown}"
  | noData value => s!"expected 0x-prefixed data, got {value.shown}"
  | badData text => s!"invalid hex data: {String.ofList (text.toList.take shownLength)}..."

/-! ### Reading -/

/-- The text after the mark of hexadecimal. -/
def afterMark? : Json → Option (List Char)
  | .str text =>
    match text.chars with
    | '0' :: 'x' :: rest => some rest
    | _ => none
  | _ => none

/-- The number that a value stands for. The field is named in a fault. -/
def quantity (value : Json) (field : String) : Except ValueFault Nat :=
  match afterMark? value with
  | none => .error (.noQuantity field value)
  | some digits =>
    match Text.Numeral.hexadecimal? digits with
    | some number => .ok number
    | none => .error (.badQuantity field value)

/-- The byte string that a value stands for; null stands for the empty one. -/
def data (value : Json) : Except ValueFault (List UInt8) :=
  match value with
  | .null => .ok []
  | value =>
    match afterMark? value with
    | none => .error (.noData value)
    | some digits =>
      match Bytes.ofHexDigits? digits with
      | some bytes => .ok bytes
      | none => .error (.badData value.plain)

/-! ### Writing -/

/-- A number in hexadecimal behind its mark. A minus stands before the mark. -/
def writtenQuantity (number : Int) : String :=
  let digits := String.ofList (Nat.toDigits 16 number.natAbs)
  if number < 0 then "-0x" ++ digits else "0x" ++ digits

end BallotWatch.Node
