/-
This file reads hostnames in all scripts and writes them in ASCII characters.

A name is made of labels with full stops between them. A label that has other characters than
those of the ASCII set is written with the sign of encoded labels in front; one that already has it
is read before it is looked into.
-/

import BallotWatch.Hostname.Label
import BallotWatch.Text.Blank
import BallotWatch.Text.Lowercase
import BallotWatch.Text.Punycode

namespace BallotWatch.Hostname

open Text

/-! ### Labels -/

/-- The sign in front of encoded labels. -/
def encodedSign : List Char :=
  "xn--".toList

/-- Whether a text has none but ASCII characters. -/
def isAscii (text : List Char) : Bool :=
  text.all fun c => decide (c.toNat < 0x80)

/-- The label that a text stands for, which is encoded if it begins with the sign. -/
def readLabel (text : List Char) : Except NameFault SymbolText :=
  let checked (label : SymbolText) : Except NameFault SymbolText :=
    match labelFault? label with
    | some fault => .error fault
    | none => .ok label
  if isAscii text && encodedSign.isPrefixOf text then
    let encoded := text.drop encodedSign.length
    if encoded.isEmpty then .error .nothingEncoded
    else if encoded.getLast? == some '-' then .error .hyphenAfterEncoded
    else
      match Punycode.decode? encoded with
      | none => .error .badlyEncoded
      | some symbols => checked ⟨symbols⟩
  else checked (SymbolText.ofString (String.ofList text))

/-- The most characters of a label in ASCII characters. -/
def maxLabel : Nat :=
  63

/-- A label in ASCII characters. -/
def asciiLabel (text : List Char) : Except NameFault (List Char) :=
  match readLabel text with
  | .error fault => .error fault
  | .ok _ =>
    let label := if isAscii text then text else encodedSign ++ Punycode.encode text
    if label.length ≤ maxLabel then .ok label else .error .labelTooLong

/-! ### Names -/

/-- The full stops of all scripts. -/
def isFullStop (c : Char) : Bool :=
  c == '.' || c == '\u3002' || c == '\uff0e' || c == '\uff61'

/-- The most characters of a name without a full stop at its end. -/
def maxName : Nat :=
  253

/-- The labels of a name, and whether a full stop ends it. -/
def labels (name : List Char) : List (List Char) × Bool :=
  let parts := pieces isFullStop name
  if parts.getLast? == some [] then (parts.dropLast, true) else (parts, false)

/-- Reads each label of a name. -/
def readName (name : List Char) : Except NameFault (List SymbolText) :=
  if maxName + 1 < name.length then .error .nameTooLong else (labels name).1.mapM readLabel

/-- A name in ASCII characters, all of them small. -/
def asciiName (name : List Char) : Except NameFault (List Char) :=
  let name := (lowercase (String.ofList name)).toList
  if maxName + 1 < name.length then .error .nameTooLong
  else
    let (parts, isEnded) := labels name
    match parts.mapM asciiLabel with
    | .error fault => .error fault
    | .ok written =>
      let written := ['.'].intercalate (if isEnded then written ++ [[]] else written)
      let most := if isEnded then maxName + 1 else maxName
      if written.length ≤ most then .ok written else .error .nameTooLong

end BallotWatch.Hostname
