/-
This file lets bytes that are no characters stand in a text.

A byte without a character stands for itself as half of a surrogate pair, so that no byte is lost
and every one can be told from a character.
-/

import BallotWatch.Text.Unencodable
import BallotWatch.Text.Utf8

namespace BallotWatch.Text

/-- Where the halves begin that stand for bytes. -/
def byteHalves : Nat :=
  0xdc00

/-- The half that stands for a byte. -/
def Symbol.ofByte (byte : UInt8) : Symbol :=
  .half (byteHalves + byte.toNat)

/-- The bytes of a symbol: those of its character, or the byte it stands for. -/
def Symbol.bytes : Symbol → List UInt8
  | .char c => Utf8.encodeChar c
  | .half code => [UInt8.ofNat (code - byteHalves)]

/-- Whether a symbol is a character. -/
def Symbol.isChar : Symbol → Bool :=
  Symbol.is fun _ => true

/-- Whether a symbol is a character or stands for a byte. -/
def Symbol.hasBytes : Symbol → Bool
  | .char _ => true
  | .half code => decide (byteHalves + 0x80 ≤ code ∧ code < byteHalves + 0x100)

/-- A text in which the bytes that are no characters have been read as UTF-8 together with
what stands around them. A text without such bytes is not changed, and one with a half that stands
for no byte cannot be read. -/
def SymbolText.settled (text : SymbolText) : Except Unencodable (List Char) :=
  if text.symbols.all Symbol.isChar then .ok text.chars
  else
    match firstFailing? Symbol.hasBytes text.symbols with
    | some (position, first, rest) =>
      let count := 1 + (rest.takeWhile fun symbol => !symbol.isChar).length
      .error ⟨"utf-8", first, position, count, "surrogates not allowed"⟩
    | none => .ok (Utf8.decodeWith replacement (text.symbols.flatMap Symbol.bytes))

end BallotWatch.Text
