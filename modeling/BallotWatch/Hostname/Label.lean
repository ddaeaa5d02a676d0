/-
This file holds the rules for the labels of hostnames in all scripts.

A label is in its composed form, has hyphens only inside it and never two of them in the third and
fourth place, begins with no mark, and has none but permitted characters, where they have a use. A
label with letters that are read from the right keeps to the rules that let it be told apart from
its neighbours.
-/

import BallotWatch.Fault
import BallotWatch.Hostname.Permitted
import BallotWatch.Text.Composed
import BallotWatch.Text.Direction
import BallotWatch.Text.Mark
import BallotWatch.Text.Quoted

namespace BallotWatch.Hostname

open Text

/-! ### What can be wrong with a name -/

/-- Why a text is no name or no label of one. Places are counted from one on. -/
inductive NameFault
  | nameTooLong
  | labelTooLong
  | empty
  | notComposed
  | innerHyphens
  | outerHyphen
  | markInFront
  | joinerWithoutUse (code place : Nat) (label : SymbolText)
  | characterWithoutUse (code place : Nat) (label : SymbolText)
  | notPermitted (code place : Nat) (label : SymbolText)
  | unknownDirection (place : Nat) (label : SymbolText)
  | noDirectionInFront (label : SymbolText)
  | wrongDirection (place : Nat) (isRight : Bool)
  | mixedNumbers
  | noDirectionAtEnd
  | nothingEncoded
  | hyphenAfterEncoded
  | badlyEncoded
  deriving DecidableEq, Repr

namespace NameFault

/-- A code point in words. -/
def codeName (code : Nat) : String :=
  "U+" ++ String.ofList ((hexNumeral 4 code).map Char.toUpper)

/-- The fault in words. -/
def message : NameFault → String
  | nameTooLong => "Domain too long"
  | labelTooLong => "Label too long"
  | empty => "Empty Label"
  | notComposed => "Label must be in Normalization Form C"
  | innerHyphens => "Label has disallowed hyphens in 3rd and 4th position"
  | outerHyphen => "Label must not start or end with a hyphen"
  | markInFront => "Label begins with an illegal combining character"
  | joinerWithoutUse code place label =>
    s!"Unknown codepoint adjacent to joiner {codeName code} at position {place} in {label.quoted}"
  | characterWithoutUse code place label =>
    s!"Codepoint {codeName code} not allowed at position {place} in {label.quoted}"
  | notPermitted code place label =>
    s!"Codepoint {codeName code} at position {place} of {label.quoted} not allowed"
  | unknownDirection place label =>
    s!"Unknown directionality in label {label.quoted} at position {place}"
  | noDirectionInFront label =>
    s!"First codepoint in label {label.quoted} must be directionality L, R or AL"
  | wrongDirection place isRight =>
    let side := if isRight then "right-to-left" else "left-to-right"
    s!"Invalid direction for codepoint at position {place} in a {side} label"
  | mixedNumbers => "Can not mix numeral types in a right-to-left label"
  | noDirectionAtEnd => "Label ends with illegal codepoint directionality"
  | nothingEncoded => "Malformed A-label, no Punycode eligible content found"
  | hyphenAfterEncoded => "A-label must not end with a hyphen"
  | badlyEncoded => "Invalid A-label"

/-- The kind of the fault. Characters, their use and their directions have kinds of their own. -/
def kind : NameFault → FaultKind
  | notPermitted _ _ _ => .hostnameCharacter
  | characterWithoutUse _ _ _ => .hostnameContext
  | unknownDirection _ _ | noDirectionInFront _ | wrongDirection _ _ | mixedNumbers
  | noDirectionAtEnd => .hostnameDirection
  | _ => .hostname

/-- The fault as it is passed on. -/
def toFault (fault : NameFault) : Fault :=
  ⟨fault.kind, fault.message⟩

end NameFault

/-! ### Characters -/

/-- What is wrong with the character at a place of a label, if anything. -/
def characterFault? (label : SymbolText) : Symbol × Nat → Option NameFault
  | (.half code, place) => some (.notPermitted code (place + 1) label)
  | (.char c, place) =>
    let before := (label.chars.take place).reverse
    let after := label.chars.drop (place + 1)
    if isPermitted c then none
    else if isJoiner c then
      if joinerFits c before after then none
      else some (.joinerWithoutUse c.toNat (place + 1) label)
    else if needsContext c then
      if contextFits c before after then none
      else some (.characterWithoutUse c.toNat (place + 1) label)
    else some (.notPermitted c.toNat (place + 1) label)

/-! ### Directions -/

/-- Whether a direction makes the rules for it apply. -/
def isFromRight (direction : Direction) : Bool :=
  direction == .right || direction == .arabic || direction == .arabicNumber

/-- Whether a direction is that of numbers. -/
def isNumeric (direction : Direction) : Bool :=
  direction == .number || direction == .arabicNumber

/-- Whether a direction can occur in a label that is read from the right, or from the left. -/
def isAllowed (isRight : Bool) (direction : Direction) : Bool :=
  direction != .boundary &&
    if isRight then direction != .left else !isFromRight direction

/-- Whether the last direction of a label can be this one; marks do not count. -/
def isEnd (isRight : Bool) (direction : Direction) : Bool :=
  direction == .number || if isRight then isFromRight direction else direction == .left

/-- What is wrong with the directions of a label from a place on, if anything. Numbers of two kinds
are not mixed in a label that is read from the right. -/
def directionsFault? (isRight : Bool) (numeric? : Option Direction) :
    Nat → List Direction → Option NameFault
  | _, [] => none
  | place, direction :: rest =>
    if !isAllowed isRight direction then some (.wrongDirection place isRight)
    else if isRight && isNumeric direction then
      match numeric? with
      | none => directionsFault? isRight (some direction) (place + 1) rest
      | some numeric =>
        if numeric = direction then directionsFault? isRight numeric? (place + 1) rest
        else some .mixedNumbers
    else directionsFault? isRight numeric? (place + 1) rest

/-- What is wrong with the directions in a label, if anything. -/
def directionFault? (label : SymbolText) : Option NameFault :=
  let directions? := label.chars.map direction?
  match directions?.findIdx? Option.isNone with
  | some place => some (.unknownDirection (place + 1) label)
  | none =>
    let directions := directions?.filterMap id
    if !(directions.any isFromRight) then none
    else
      let check (isRight : Bool) : Option NameFault :=
        directionsFault? isRight none 1 directions <|>
          if ((directions.filter (· != .mark)).getLast?.any (isEnd isRight)) then none
          else some .noDirectionAtEnd
      match directions with
      | .right :: _ | .arabic :: _ => check true
      | .left :: _ => check false
      | _ => some (.noDirectionInFront label)

/-! ### Labels -/

/-- What is wrong with a label, if anything. -/
def labelFault? (label : SymbolText) : Option NameFault :=
  let text := label.chars
  if text.isEmpty then some .empty
  else if composed text != text then some .notComposed
  else if (text.drop 2).take 2 == ['-', '-'] then some .innerHyphens
  else if text.head? == some '-' || text.getLast? == some '-' then some .outerHyphen
  else if text.head?.any combiningMarks.contains then some .markInFront
  else label.symbols.zipIdx.findSome? (characterFault? label) <|> directionFault? label

end BallotWatch.Hostname
