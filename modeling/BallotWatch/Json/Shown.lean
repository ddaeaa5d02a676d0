/-
This file shows JSON values inside messages. Texts stand between quotes, except a text that is
the whole value where a message asks for the plain form; truth values and null are words with a
capital, and numbers with a point are shown with the fewest digits that read back.

The values come from a reader. It takes whole numbers of no more digits than can be written and goes
down to a limited depth only, so none of the values shown has too many digits or is too deep.
-/

import BallotWatch.Decimal.Written
import BallotWatch.Json.Value
import BallotWatch.Text.Quoted

namespace BallotWatch.Json

/-- Texts one after another with a comma and a space between them. -/
def commaSeparated : List String → String
  | [] => ""
  | [text] => text
  | text :: rest => text ++ ", " ++ commaSeparated rest

mutual

/-- A value as a message shows it. A whole number is shown with all its digits, since one with too
many to be written is never read. -/
def shown : Json → String
  | null => "None"
  | bool true => "True"
  | bool false => "False"
  | int number => toString number
  | real number => number.written
  | str text => text.quoted
  | arr items => "[" ++ commaSeparated (shownItems items) ++ "]"
  | obj members => "\x7b" ++ commaSeparated (shownMembers members) ++ "\x7d"

/-- The items of a list as a message shows them. -/
def shownItems : List Json → List String
  | [] => []
  | item :: rest => shown item :: shownItems rest

/-- The members of an object as a message shows them. -/
def shownMembers : List Member → List String
  | [] => []
  | (name, value) :: rest => (name.quoted ++ ": " ++ shown value) :: shownMembers rest

end

/-- A value in plain form: a text stands as it is, with lone halves of surrogate pairs
replaced, and any other value as a message shows it. -/
def plain : Json → String
  | str text => text.toString
  | value => shown value

end BallotWatch.Json
