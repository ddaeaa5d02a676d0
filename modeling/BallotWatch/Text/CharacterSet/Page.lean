/-
This file describes the sets with one byte to a character.
-/

import BallotWatch.Text.CharacterSet.Basic

namespace BallotWatch.Text

/-- A set with one byte to a character: its names, the byte from which on it differs from the
first 256 code points, and the characters from there, a replacement where there is none. -/
structure CodePage where
  names : List String
  first : Nat
  characters : String
  deriving Repr

namespace CodePage

/-- The character of a byte. -/
def char? (page : CodePage) (byte : UInt8) : Option Char :=
  if byte.toNat < page.first then some (Char.ofNat byte.toNat)
  else (page.characters.toList[byte.toNat - page.first]?).filter (· != replacement)

/-- The symbols of bytes. -/
def read (page : CodePage) : List UInt8 → Option (List Symbol) :=
  readPlainSteps fun first _ =>
    match page.char? first with
    | some c => .chars [c] 1 ()
    | none => .lost 1 ()

/-- A page as a set. -/
def toSet (page : CodePage) : CharacterSet :=
  ⟨page.names, page.read⟩

end CodePage

end BallotWatch.Text
