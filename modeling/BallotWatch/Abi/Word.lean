/-
This file reads the data section of a log: words of 32 bytes, and byte strings of any length
that a word points to by their offset.

A reader refuses what lies past the end of the data and never reads around it. The offset and
the length of a byte string are full words, so both are checked against the data before they
are used.
-/

import BallotWatch.Chain.Address
import BallotWatch.Fault
import BallotWatch.Text.Quoted
import BallotWatch.Text.Utf8
import BallotWatch.Time.Instant

namespace BallotWatch.Abi

/-! ### What can be wrong with data -/

/-- Why a value could not be read. -/
inductive AbiFault
  | wordOutOfRange (index size : Nat)
  | addressPadding
  | addressTooShort (bytes : List UInt8)
  | offsetPastEnd (offset : Nat)
  | payloadTruncated (length : Nat)
  | notText (fault : Text.Utf8.Fault)
  | unsupportedType (type : String)
  | timeOutOfRange (seconds : Int)
  deriving DecidableEq, Repr

/-- The fault in words. -/
def AbiFault.message : AbiFault → String
  | wordOutOfRange index size => s!"word {index} out of range (data has {size} bytes)"
  | addressPadding => "address word has non-zero padding"
  | addressTooShort bytes =>
    let shown := Text.quoted (Bytes.toMarkedHex bytes)
    s!"Unknown format {shown}, attempted to normalize to {shown}"
  | offsetPastEnd offset => s!"dynamic offset {offset} points past the data section"
  | payloadTruncated length => s!"dynamic payload of {length} bytes is truncated"
  | notText fault => s!"payload is not valid UTF-8: {fault.message}"
  | unsupportedType type => s!"unsupported ABI type {Text.quoted type}"
  | timeOutOfRange seconds => s!"timestamp {seconds} out of range"

/-- The fault as it is passed on. -/
def AbiFault.toFault (fault : AbiFault) : Fault :=
  match fault with
  | addressTooShort _ => ⟨.value, fault.message⟩
  | _ => ⟨.malformed, fault.message⟩

/-! ### Words -/

/-- The bytes of a word. -/
def wordSize : Nat :=
  32

/-- The word at an index, counted from zero. -/
def wordAt (data : List UInt8) (index : Nat) : Except AbiFault (List UInt8) :=
  if wordSize * index + wordSize ≤ data.length then
    .ok ((data.drop (wordSize * index)).take wordSize)
  else .error (.wordOutOfRange index data.length)

/-- The word that so many whole words precede the end of the data; only as much of it as the
data holds. The place before no word is the end itself, and the word there is empty. -/
def wordFromEnd (data : List UInt8) : Nat → List UInt8
  | 0 => []
  | following + 1 =>
    let last := data.length - wordSize * (following + 1)
    (data.take last).drop (last - wordSize)

/-- The word at an index. One below zero counts back from the end of the data. -/
def word (data : List UInt8) : Int → Except AbiFault (List UInt8)
  | .ofNat index => wordAt data index
  | .negSucc following => .ok (wordFromEnd data following)

@[simp]
theorem word_natCast (data : List UInt8) (index : Nat) : word data index = wordAt data index :=
  rfl

/-- The number that bytes stand for, the most significant first. -/
def uint (bytes : List UInt8) : Nat :=
  bytes.foldl (fun number byte => number * 256 + byte.toNat) 0

/-- The bytes of padding before an address. -/
def addressPadding : Nat :=
  12

/-- The bytes of an address. -/
def addressSize : Nat :=
  20

/-- The address at the end of a word that has nothing else. -/
def address (word : List UInt8) : Except AbiFault String :=
  if (word.take addressPadding).all (· == 0) then
    let bytes := word.drop (word.length - addressSize)
    if bytes.length = addressSize then .ok (Address.written bytes)
    else .error (.addressTooShort bytes)
  else .error .addressPadding

/-- The point in time of a number of seconds. -/
def time (seconds : Int) : Except AbiFault Instant :=
  match Instant.ofSeconds? seconds with
  | some instant => .ok instant
  | none => .error (.timeOutOfRange seconds)

/-! ### Byte strings -/

/-- The byte string at an offset. A word with its length precedes it. -/
def payload (data : List UInt8) (offset : Nat) : Except AbiFault (List UInt8) :=
  if offset + wordSize ≤ data.length then
    let length := uint ((data.drop offset).take wordSize)
    let start := offset + wordSize
    if start + length ≤ data.length then .ok ((data.drop start).take length)
    else .error (.payloadTruncated length)
  else .error (.offsetPastEnd offset)

/-- The byte string whose offset stands at an index. -/
def dynamic (data : List UInt8) (index : Int) : Except AbiFault (List UInt8) :=
  match word data index with
  | .error fault => .error fault
  | .ok word => payload data (uint word)

/-- The text whose offset stands at an index. -/
def text (data : List UInt8) (index : Int) : Except AbiFault String :=
  match dynamic data index with
  | .error fault => .error fault
  | .ok bytes =>
    match Text.Utf8.decode bytes with
    | .ok text => .ok text
    | .error fault => .error (.notText fault)

end BallotWatch.Abi
