/-
This file reads and writes account addresses. The case of their letters carries a checksum: a
letter is a capital when the digit at its place in the digest of the address is eight or more.

Which texts are addresses is a rule that settings are checked by. The standard one takes digits of
one case as they are, and looks at the checksum where there are letters of both.
-/

import BallotWatch.Bytes.Hex
import BallotWatch.Digest.Keccak

namespace BallotWatch.Address

open Bytes Digest

/-- Capitalizes the digits whose partners in the second list are eight or more. -/
def capitalize : List Char → List Nat → List Char
  | [], _ => []
  | digits, [] => digits
  | digit :: digits, strength :: strengths =>
    (if 8 ≤ strength then digit.toUpper else digit) :: capitalize digits strengths

/-- The half bytes of some bytes. -/
def halves (bytes : List UInt8) : List Nat :=
  bytes.flatMap fun byte => [byte.toNat / 16, byte.toNat % 16]

/-- The address of some bytes with its checksum. -/
def written (bytes : List UInt8) : String :=
  let digits := toHexDigits bytes
  let digest := keccak256 (digits.map fun digit => UInt8.ofNat digit.toNat)
  String.ofList ('0' :: 'x' :: capitalize digits (halves digest))

/-- The forty digits of an address text, with or without the mark before them. -/
def digits? (text : String) : Option (List Char) :=
  let digits :=
    match text.toList with
    | '0' :: 'x' :: rest => rest
    | '0' :: 'X' :: rest => rest
    | rest => rest
  if digits.length = 40 ∧ digits.all (fun digit => (Text.asciiHexDigit? digit).isSome) then
    some digits
  else none

/-- The digits of an address text in the form with checksum, whatever the case of its letters. -/
def checksummed? (text : String) : Option String :=
  (digits? text).bind fun digits => (ofHexDigits? digits).map written

/-! ### Rules -/

/-- A rule for which texts are addresses. Whatever it accepts has the digits of one. -/
structure Rule where
  accepts : String → Bool
  hasDigits : ∀ text, accepts text = true → (digits? text).isSome = true

/-- An address text in the form with checksum, if a rule accepts it. -/
def Rule.checksummed? (rule : Rule) (text : String) : Option String :=
  if rule.accepts text then Address.checksummed? text else none

/-- Whether digits have letters of one case at most, so that the case tells nothing. -/
def isOfOneCase (digits : List Char) : Bool :=
  digits.all (fun digit => !digit.isUpper) || digits.all (fun digit => !digit.isLower)

/-- Whether digits can stand in an address text: letters of both cases carry a checksum, which must
be the right one, behind the small mark. -/
def isChecked (text : String) (digits : List Char) : Bool :=
  isOfOneCase digits || checksummed? text == some text

/-- The standard rule: the digits of an address, and the right checksum where they have one. -/
def Rule.standard : Rule where
  accepts text := (digits? text).any (isChecked text)
  hasDigits text accepted := by
    obtain ⟨digits, read, -⟩ := (Option.any_eq_true _ _).mp accepted
    rw [read]
    rfl

end BallotWatch.Address
