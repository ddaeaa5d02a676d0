/-
This file writes a text between quotes so that every character of it can be seen.

Single quotes are the rule. Double quotes are used for a text that has a single quote and no
double quote, so that neither needs an escape. The quote in use and the backslash stand behind
a backslash, the common line controls have letters, and a character without a shape of its own
is written by number, in two, four or eight hexadecimal digits. Half of a surrogate pair that
stands alone has no shape either.
-/

import BallotWatch.Text.Printable
import BallotWatch.Text.Symbol

namespace BallotWatch.Text

/-- The hexadecimal digits of a number, filled up with zeros to a least width. -/
def hexNumeral (width number : Nat) : List Char :=
  let digits := Nat.toDigits 16 number
  List.replicate (width - digits.length) '0' ++ digits

/-- The quote a text is written between. -/
def quoteOf (text : List Char) : Char :=
  if text.contains '\'' && !text.contains '"' then '"' else '\''

/-- A character by its number, in two, four or eight digits behind a backslash and a letter. -/
def numbered (c : Char) : List Char :=
  if c.toNat < 0x100 then '\\' :: 'x' :: hexNumeral 2 c.toNat
  else if c.toNat < 0x10000 then '\\' :: 'u' :: hexNumeral 4 c.toNat
  else '\\' :: 'U' :: hexNumeral 8 c.toNat

/-- A character as it stands between quotes of the given kind. -/
def escaped (quote c : Char) : List Char :=
  if c == quote || c == '\\' then ['\\', c]
  else if c == '\n' then ['\\', 'n']
  else if c == '\r' then ['\\', 'r']
  else if c == '\t' then ['\\', 't']
  else if isPrintable c then [c]
  else numbered c

/-- A text between quotes. -/
def quoted (text : String) : String :=
  let quote := quoteOf text.toList
  String.ofList (quote :: text.toList.flatMap (escaped quote) ++ [quote])

/-- A symbol as it stands between quotes of the given kind. -/
def Symbol.escaped (quote : Char) : Symbol → List Char
  | char c => Text.escaped quote c
  | half code => '\\' :: 'u' :: hexNumeral 4 code

/-- A text of symbols between quotes. -/
def SymbolText.quoted (text : SymbolText) : String :=
  let quote := quoteOf text.chars
  String.ofList (quote :: text.symbols.flatMap (Symbol.escaped quote) ++ [quote])

end BallotWatch.Text
