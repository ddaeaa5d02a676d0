/-
This file holds the values of a JSON text. Objects keep the order of their members, and whole
numbers are told apart from numbers with a point or an exponent. In texts and in names half of
a surrogate pair can stand alone.
-/

import BallotWatch.Decimal.Binary
import BallotWatch.Text.Symbol

namespace BallotWatch

/-- A JSON value. -/
inductive Json
  | null
  | bool (truth : Bool)
  | int (number : Int)
  | real (number : Decimal.Binary)
  | str (text : Text.SymbolText)
  | arr (items : List Json)
  | obj (members : List (Text.SymbolText × Json))
  deriving Repr, Inhabited

/-- A member of an object: its name and its value. -/
abbrev Json.Member := Text.SymbolText × Json

namespace Json

/-- A text of characters as a value. -/
def ofString (text : String) : Json :=
  str text

/-- The member of an object with the given name. Names are distinct, so there is at most
one. -/
def member? (name : Text.SymbolText) : Json → Option Json
  | obj members => (members.find? fun member => member.1 == name).map (·.2)
  | _ => none

/-- Adds a member at the end, or replaces the value of the one that has the name already. -/
def putMember (name : Text.SymbolText) (value : Json) : List Member → List Member
  | [] => [(name, value)]
  | (other, present) :: rest =>
    if other == name then (name, value) :: rest
    else (other, present) :: putMember name value rest

/-- The word for the kind of a value. -/
def kindName : Json → String
  | null => "NoneType"
  | bool _ => "bool"
  | int _ => "int"
  | real _ => "float"
  | str _ => "str"
  | arr _ => "list"
  | obj _ => "dict"

/-- Whether a value counts as empty: null, false, zero, and the empty text, list and object. -/
def isEmptyValue : Json → Bool
  | null => true
  | bool truth => !truth
  | int number => number == 0
  | real (.finite _ significand _) => significand == 0
  | real _ => false
  | str text => text.isEmpty
  | arr items => items.isEmpty
  | obj members => members.isEmpty

end Json

end BallotWatch
