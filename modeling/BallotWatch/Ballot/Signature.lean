/-
This file reads event signatures: a name and, between the first opening and the last closing
parenthesis, parameters with commas between them. A comma inside parentheses of its own does
not end a parameter. The last word of a parameter is its name and the words before it are its
type; a parameter of one word has a type only and is named after its place.

The canonical form keeps the name and the types. Its Keccak digest is the first topic of every
log entry of the event.
-/

import BallotWatch.Bytes.Hex
import BallotWatch.Digest.Keccak
import BallotWatch.Fault
import BallotWatch.Text.Blank
import BallotWatch.Text.Quoted
import BallotWatch.Text.Utf8

namespace BallotWatch

/-- A parameter of an event. -/
structure Parameter where
  name : String
  type : String
  deriving DecidableEq, Repr

/-- An event: its name and its parameters in order. -/
structure Signature where
  name : String
  parameters : List Parameter
  deriving DecidableEq, Repr

/-- Why a text is no signature. -/
inductive SignatureFault
  | noParameterList (text : String)
  | indexed (parameter : String)
  | emptyParameter
  deriving DecidableEq, Repr

/-- The fault in words. -/
def SignatureFault.message : SignatureFault → String
  | noParameterList text => s!"Invalid event signature: {text}"
  | indexed parameter => s!"indexed parameters are not supported: {Text.quoted parameter}"
  | emptyParameter => "empty parameter"

/-- The fault as it is passed on. -/
def SignatureFault.toFault (fault : SignatureFault) : Fault :=
  ⟨.value, fault.message⟩

namespace Signature

open Text

/-! ### Cutting at commas -/

/-- Cuts a text at the commas that stand outside parentheses. The depth counts the parentheses
open so far and falls below zero where too many are closed. -/
def cutAtCommas (depth : Int) : List Char → List (List Char)
  | [] => [[]]
  | c :: rest =>
    let inner := if c == '(' then depth + 1 else if c == ')' then depth - 1 else depth
    if c == ',' && inner == 0 then [] :: cutAtCommas inner rest
    else
      match cutAtCommas inner rest with
      | [] => [[c]]
      | piece :: others => (c :: piece) :: others

/-- The texts of the parameters, without the blanks around them. Empty ones do not count. -/
def parameterTexts (text : List Char) : List (List Char) :=
  ((cutAtCommas 0 text).map trim).filter fun piece => !piece.isEmpty

/-! ### Parameters -/

/-- Words one after another with single spaces between them. -/
def spaced : List (List Char) → List Char
  | [] => []
  | [word] => word
  | word :: rest => word ++ ' ' :: spaced rest

/-- The name of a parameter without one. -/
def placeName (place : Nat) : String :=
  s!"arg{place}"

/-- The parameter at a place. Among the texts of parameters none is without words. -/
def parameter (place : Nat) (text : List Char) : Except SignatureFault Parameter :=
  let parts := words text
  if parts.contains "indexed".toList then .error (.indexed (String.ofList text))
  else
    match parts.reverse with
    | [] => .error .emptyParameter
    | [type] => .ok ⟨placeName place, String.ofList type⟩
    | name :: type => .ok ⟨String.ofList name, String.ofList (spaced type.reverse)⟩

/-- The parameters from a place on. -/
def parametersFrom (place : Nat) : List (List Char) → Except SignatureFault (List Parameter)
  | [] => .ok []
  | text :: rest =>
    match parameter place text with
    | .error fault => .error fault
    | .ok first => (parametersFrom (place + 1) rest).map (first :: ·)

/-! ### Whole signatures -/

/-- The text before the first opening parenthesis and the text between it and the last closing
one. -/
def splitAtParentheses? (text : List Char) : Option (List Char × List Char) :=
  let name := text.takeWhile (· != '(')
  match text.dropWhile (· != '(') with
  | [] => none
  | _ :: afterOpen =>
    match afterOpen.reverse.dropWhile (· != ')') with
    | [] => none
    | _ :: reversedInner => some (name, reversedInner.reverse)

/-- The signature of a text. -/
def ofText (text : String) : Except SignatureFault Signature :=
  match splitAtParentheses? (trim text.toList) with
  | none => .error (.noParameterList text)
  | some (name, inner) =>
    (parametersFrom 0 (parameterTexts inner)).map fun parameters =>
      ⟨String.ofList (trim name), parameters⟩

/-- Types one after another with commas between them. -/
def typeList : List Parameter → String
  | [] => ""
  | [parameter] => parameter.type
  | parameter :: rest => parameter.type ++ "," ++ typeList rest

/-- The canonical form. -/
def canonical (signature : Signature) : String :=
  signature.name ++ "(" ++ typeList signature.parameters ++ ")"

/-- The first topic of the event's log entries. -/
def topic (signature : Signature) : String :=
  Bytes.toMarkedHex (Digest.keccak256 (Utf8.encode signature.canonical))

end Signature

end BallotWatch
