/-
This file writes JSON texts: without blanks, with the members of objects in their order, and
with controls, quotes, backslashes and lone halves of surrogate pairs inside texts escaped.
-/

import BallotWatch.Decimal.Written
import BallotWatch.Json.Value
import BallotWatch.Text.Quoted

namespace BallotWatch.Json

/-- A character as it stands inside a text. -/
def escapedChar (c : Char) : List Char :=
  if c == '"' || c == '\\' then ['\\', c]
  else if c.toNat < 32 || c.toNat == 127 then '\\' :: 'u' :: Text.hexNumeral 4 c.toNat
  else [c]

/-- A symbol as it stands inside a text. -/
def escapedSymbol : Text.Symbol → List Char
  | .char c => escapedChar c
  | .half code => '\\' :: 'u' :: Text.hexNumeral 4 code

/-- A text between its quotes. -/
def writtenText (text : Text.SymbolText) : String :=
  String.ofList ('"' :: text.symbols.flatMap escapedSymbol ++ ['"'])

mutual

/-- A value as a JSON text. -/
def written : Json → String
  | null => "null"
  | bool truth => if truth then "true" else "false"
  | int number => toString number
  | real number => number.written
  | str text => writtenText text
  | arr items => "[" ++ ",".intercalate (writtenItems items) ++ "]"
  | obj members => "\x7b" ++ ",".intercalate (writtenMembers members) ++ "\x7d"

/-- The items of a list as JSON texts. -/
def writtenItems : List Json → List String
  | [] => []
  | item :: rest => written item :: writtenItems rest

/-- The members of an object as JSON texts. -/
def writtenMembers : List Member → List String
  | [] => []
  | (name, value) :: rest => (writtenText name ++ ":" ++ written value) :: writtenMembers rest

end

end BallotWatch.Json
