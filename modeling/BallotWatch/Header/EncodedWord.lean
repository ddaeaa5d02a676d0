/-
This file reads encoded words, the form in which a header holds characters outside the ASCII
set.

An encoded word is opened by `=?` and closed by `?=`. Question marks part it into the name of a
character set, to which the name of a language can be added after a star, the letter of an
encoding, and the encoded bytes. Bytes are encoded one by one as characters, or six bits to a
letter. Encoded bytes are always read: letters that do not belong to the encoding are passed
over, missing padding is no fault, and where a single letter is left at the end the letters are
taken for the bytes.
-/

import BallotWatch.Header.Reader
import BallotWatch.Text.CharacterSet
import BallotWatch.Text.Digit

namespace BallotWatch.Header

open Text

namespace EncodedWord

/-! ### Bytes as characters -/

/-- The byte of a character among the first 256 code points. -/
def byteOf (c : Char) : UInt8 :=
  UInt8.ofNat c.toNat

/-- The byte of two hexadecimal digits. -/
def hexByte? (high low : Char) : Option UInt8 := do
  return UInt8.ofNat ((← asciiHexDigit? high) * 16 + (← asciiHexDigit? low))

/-- Bytes written as the characters they are in the ASCII set, a blank as an underscore, and any
byte as two hexadecimal digits after an equals sign. -/
def quotedBytes : List Char → List UInt8
  | [] => []
  | '_' :: rest => byteOf ' ' :: quotedBytes rest
  | '=' :: high :: low :: rest =>
    match hexByte? high low with
    | some byte => byte :: quotedBytes rest
    | none => byteOf '=' :: quotedBytes (high :: low :: rest)
  | c :: rest => byteOf c :: quotedBytes rest

/-! ### Bytes as groups of six bits -/

/-- The letters of the encoding in the order of their values. -/
def letters : List Char :=
  "ABCDEFGHIJKLMNOPQRSTUVWXYZabcdefghijklmnopqrstuvwxyz0123456789+/".toList

/-- The values of the letters up to the padding that completes a group of four. What is given
first are the letters of the last group so far and the padding after them. -/
def lettersBeforePadding (inGroup padding : Nat) : List Char → List Nat
  | [] => []
  | '=' :: rest =>
    if inGroup < 2 then lettersBeforePadding inGroup padding rest
    else if inGroup + padding + 1 < 4 then lettersBeforePadding inGroup (padding + 1) rest
    else []
  | c :: rest =>
    match letters.idxOf? c with
    | some value => value :: lettersBeforePadding ((inGroup + 1) % 4) 0 rest
    | none => lettersBeforePadding inGroup padding rest

/-- The bytes of letters, or nothing if a single one is left at the end. -/
def groupedBytes? : List Nat → Option (List UInt8)
  | [] => some []
  | [_] => none
  | [one, two] => some [UInt8.ofNat (one * 4 + two / 16)]
  | [one, two, three] =>
    some [UInt8.ofNat (one * 4 + two / 16), UInt8.ofNat (two % 16 * 16 + three / 4)]
  | one :: two :: three :: four :: rest =>
    (groupedBytes? rest).map fun bytes =>
      UInt8.ofNat (one * 4 + two / 16) :: UInt8.ofNat (two % 16 * 16 + three / 4) ::
        UInt8.ofNat (three % 4 * 64 + four) :: bytes

/-- Bytes written in groups of four letters for three of them. -/
def letterBytes (text : List Char) : List UInt8 :=
  (groupedBytes? (lettersBeforePadding 0 0 text)).getD (text.map byteOf)

/-! ### Whole words -/

/-- The text before and after the first place where two characters stand together. -/
def cutAt (first second : Char) : List Symbol → Option (List Symbol × List Symbol)
  | one :: two :: rest =>
    if one = .char first ∧ two = .char second then some ([], rest)
    else (cutAt first second (two :: rest)).map fun (before, after) => (one :: before, after)
  | _ => none

/-- The characters of an encoded text. A byte that no character set knew is taken for itself,
and other characters must be of the ASCII set. -/
def encodedText? (text : List Symbol) : Option (List Char) :=
  text.mapM fun
    | .char c => if c.toNat < 0x80 then some c else none
    | .half code =>
      if code < byteHalves + 0x100 then some (Char.ofNat (code - byteHalves)) else none

/-- The text of a word by its three parts, if its bytes can be read. The name of the set may not
have the null character in it. -/
def decode? (set encoding text : List Symbol) : Option (List Symbol) := do
  let name := (set.takeWhile (· != .char '*')).map Symbol.toChar
  if name.contains '\x00' then none
  else if encoding = [.char 'q'] ∨ encoding = [.char 'Q'] then
    readIn name (quotedBytes (← encodedText? text))
  else if encoding = [.char 'b'] ∨ encoding = [.char 'B'] then
    readIn name (letterBytes (← encodedText? text))
  else none

/-- The parts of a word and the text after it. The mark `?=` that closes the word can also open
its encoded text, if that begins with an encoded byte: it does when two hexadecimal digits
follow and the word would otherwise have too few parts. -/
def parts? (body : List Symbol) : Option (List Symbol × List Symbol) := do
  let (word, rest) ← cutAt '?' '=' body
  let marks := (word.filter (· == .char '?')).length
  match rest with
  | .char high :: .char low :: _ =>
    if (hexByte? high low).isSome && decide (marks < 2) then
      let (more, rest) := (cutAt '?' '=' rest).getD (rest, [])
      return (word ++ [.char '?', .char '='] ++ more, rest)
    else return (word, rest)
  | _ => return (word, rest)

/-- Reads a word, if one stands at the front of a text. -/
def read? : List Symbol → Option (List Symbol × List Symbol)
  | .char '=' :: .char '?' :: body => do
    let (word, rest) ← parts? body
    let set := word.takeWhile (· != .char '?')
    let others := (word.dropWhile (· != .char '?')).tail
    let encoding := others.takeWhile (· != .char '?')
    let text := others.dropWhile (· != .char '?')
    if others.contains (.char '?') && !text.tail.contains (.char '?') then
      return (← decode? set encoding text.tail, rest)
    else none
  | _ => none

/-- A reader of encoded words. -/
def reader : Reader (List Symbol) := fun text =>
  match read? text with
  | some found => .ok found
  | none => .error .mismatch

/-- Whether a text has the form of an encoded word somewhere in it. -/
def occursIn : List Symbol → Bool
  | [] => false
  | symbol :: rest =>
    let startsHere :=
      match symbol :: rest with
      | .char '=' :: .char '?' :: body =>
        match body.dropWhile (· != .char '?') with
        | _ :: .char encoding :: .char '?' :: text =>
          "qQbB".toList.contains encoding && (cutAt '?' '=' text).isSome
        | _ => false
      | _ => false
    startsHere || occursIn rest

end EncodedWord

end BallotWatch.Header
