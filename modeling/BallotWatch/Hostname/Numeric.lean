/-
This file decides which texts are the numeric addresses of hosts.

Four numbers with points between them are an address of the fourth version of the protocol, and
eight groups of hexadecimal digits with colons between them one of the sixth.
-/

import BallotWatch.Text.Blank
import BallotWatch.Text.Digit

namespace BallotWatch.Hostname

open Text

/-! ### Addresses of the fourth version -/

/-- Whether a text is four numbers of any size with points between them. -/
def isFourNumbers (text : List Char) : Bool :=
  let numbers := pieces (· == '.') text
  numbers.length == 4 && numbers.all fun number => !number.isEmpty && number.all Char.isDigit

/-- Whether a text is a number below 256 without a zero in front. -/
def isOctet (text : List Char) : Bool :=
  match text with
  | [] => false
  | first :: rest =>
    let value := (first :: rest).foldl (fun value c => value * 10 + (c.toNat - '0'.toNat)) 0
    (first :: rest).all Char.isDigit && rest.length < 3 && (first != '0' || rest.isEmpty) &&
      decide (value < 256)

/-- Whether a text is an address of the fourth version. -/
def isVersionFour (text : List Char) : Bool :=
  let octets := pieces (· == '.') text
  octets.length == 4 && octets.all isOctet

/-! ### Addresses of the sixth version -/

/-- Whether a text is a group of an address: up to four hexadecimal digits. -/
def isGroup (text : List Char) : Bool :=
  !text.isEmpty && decide (text.length ≤ 4) && text.all fun c => (asciiHexDigit? c).isSome

/-- The most groups of an address. -/
def maxGroups : Nat :=
  8

/-- Whether the texts between colons make up an address. One run of groups may be left out: an
empty text tells where, and at an end of the address there are two of them. -/
def areGroups (parts : List (List Char)) : Bool :=
  let inner := (parts.drop 1).dropLast
  let before := parts.take (1 + (inner.takeWhile fun part => !part.isEmpty).length)
  let after := parts.drop (before.length + 1)
  match (inner.filter List.isEmpty).length with
  | 0 => parts.length == maxGroups && parts.all isGroup
  | 1 =>
    let groups := (if before == [[]] then [] else before) ++ (if after == [[]] then [] else after)
    decide (groups.length < maxGroups) && groups.all isGroup
  | _ => false

/-- The texts between colons, with an address of the fourth version at the end counted as the two
groups that it stands for. -/
def groupTexts? (text : List Char) : Option (List (List Char)) :=
  let parts := pieces (· == ':') text
  match parts.getLast? with
  | some last =>
    if last.contains '.' then
      if isVersionFour last then some (parts.dropLast ++ [['0'], ['0']]) else none
    else some parts
  | none => none

/-- Whether a text is an address of the sixth version. A zone may follow it behind a percent
sign. -/
def isVersionSix (text : List Char) : Bool :=
  let address := text.takeWhile (· != '%')
  let zoneFits :=
    match text.dropWhile (· != '%') with
    | [] => true
    | _ :: zone => !zone.isEmpty && !zone.contains '%'
  let colons := (address.filter (· == ':')).length
  zoneFits && decide (2 ≤ colons) &&
    match groupTexts? address with
    | some parts => decide (parts.length ≤ maxGroups + 1) && areGroups parts
    | none => false

end BallotWatch.Hostname
