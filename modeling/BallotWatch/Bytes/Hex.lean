/-
This file writes bytes as pairs of hexadecimal digits and reads them back. Written pairs are
in lower case and close together; a reader takes either case, and blanks of the ASCII set
between pairs but not inside one.
-/

import BallotWatch.Text.Blank
import BallotWatch.Text.Digit

namespace BallotWatch.Bytes

open Text

/-- The digit for a value below sixteen. -/
def hexDigit (value : Nat) : Char :=
  "0123456789abcdef".toList.getD value '0'

/-- The pairs of digits for some bytes. -/
def toHexDigits : List UInt8 → List Char
  | [] => []
  | byte :: rest =>
    hexDigit (byte.toNat / 16) :: hexDigit (byte.toNat % 16) :: toHexDigits rest

/-- Bytes as pairs of digits. -/
def toHex (bytes : List UInt8) : String :=
  String.ofList (toHexDigits bytes)

/-- Bytes as pairs of digits behind the mark of hexadecimal. -/
def toMarkedHex (bytes : List UInt8) : String :=
  "0x" ++ toHex bytes

/-- Reads pairs of digits with blanks between them. -/
def ofHexDigits? : List Char → Option (List UInt8)
  | [] => some []
  | high :: rest =>
    if isAsciiBlank high then ofHexDigits? rest
    else
      match rest with
      | [] => none
      | low :: rest =>
        match asciiHexDigit? high, asciiHexDigit? low with
        | some upper, some lower =>
          (ofHexDigits? rest).map (UInt8.ofNat (upper * 16 + lower) :: ·)
        | _, _ => none

end BallotWatch.Bytes
