/-
This file reads the sets in which characters are units of 8, 16 or 32 bits.

Units of more than 8 bits can have their low or their high byte first. Where the name of the set
leaves that open, a mark at the front tells it, and without one the low byte is first. Characters
beyond the first 65536 code points are pairs of units of 16 bits.
-/

import BallotWatch.Text.CharacterSet.Basic

namespace BallotWatch.Text.Units

/-- Which byte of a unit is first. -/
inductive ByteOrder
  | lowFirst
  | highFirst
  deriving DecidableEq, Repr

/-- The value of the bytes of a unit. -/
def ByteOrder.value (order : ByteOrder) (bytes : List UInt8) : Nat :=
  let highFirst :=
    match order with
    | lowFirst => bytes.reverse
    | highFirst => bytes
  highFirst.foldl (fun value byte => value * 256 + byte.toNat) 0

/-- The mark at the front of a text. -/
def mark : Nat :=
  0xfeff

/-- The order of bytes that a mark tells and the bytes after it; without a mark, the low byte is
first. -/
def marked (size : Nat) (bytes : List UInt8) : ByteOrder × List UInt8 :=
  let unit := bytes.take size
  if unit.length < size then (.lowFirst, bytes)
  else if ByteOrder.lowFirst.value unit = mark then (.lowFirst, bytes.drop size)
  else if ByteOrder.highFirst.value unit = mark then (.highFirst, bytes.drop size)
  else (.lowFirst, bytes)

/-! ### Units of 8 bits -/

/-- Reads units of 8 bits. -/
def read8 (bytes : List UInt8) : Option (List Symbol) :=
  some <| (Utf8.sequences bytes).flatMap fun
    | .ok code => [.char (Char.ofNat code)]
    | .error refused => refused.map .ofByte

/-- Reads units of 8 bits behind a mark, if there is one. -/
def read8Marked (bytes : List UInt8) : Option (List Symbol) :=
  match bytes with
  | 0xef :: 0xbb :: 0xbf :: rest => read8 rest
  | bytes => read8 bytes

/-! ### Units of 16 bits -/

/-- Whether a unit is the first half of a pair. -/
def isFirstHalf (unit : Nat) : Bool :=
  decide (0xd800 ≤ unit ∧ unit < 0xdc00)

/-- Whether a unit is the second half of a pair. -/
def isSecondHalf (unit : Nat) : Bool :=
  decide (0xdc00 ≤ unit ∧ unit < 0xe000)

/-- The code point of a pair. -/
def pairCode (first second : Nat) : Nat :=
  0x10000 + (first - 0xd800) * 0x400 + (second - 0xdc00)

/-- A step of reading units of 16 bits. A half without its other half has no meaning. -/
def step16 (order : ByteOrder) (one : UInt8) (rest : List UInt8) : Step Unit :=
  match rest with
  | [] => .lost 1 ()
  | two :: rest =>
    let unit := order.value [one, two]
    if isFirstHalf unit then
      match rest with
      | three :: four :: _ =>
        let second := order.value [three, four]
        if isSecondHalf second then .chars [Char.ofNat (pairCode unit second)] 4 ()
        else .lost 2 ()
      | _ => .lost (2 + rest.length) ()
    else if isSecondHalf unit then .lost 2 ()
    else .chars [Char.ofNat unit] 2 ()

/-- Reads units of 16 bits. -/
def read16 (order : ByteOrder) : List UInt8 → Option (List Symbol) :=
  readPlainSteps (step16 order)

/-- Reads units of 16 bits in the order that a mark tells. -/
def read16Marked (bytes : List UInt8) : Option (List Symbol) :=
  let (order, rest) := marked 2 bytes
  read16 order rest

/-! ### Units of 32 bits -/

/-- A step of reading units of 32 bits. -/
def step32 (order : ByteOrder) (one : UInt8) (rest : List UInt8) : Step Unit :=
  match rest with
  | two :: three :: four :: _ =>
    let code := order.value [one, two, three, four]
    if isHalf code ∨ 0x10ffff < code then .lost 4 () else .chars [Char.ofNat code] 4 ()
  | rest => .lost (1 + rest.length) ()

/-- Reads units of 32 bits. -/
def read32 (order : ByteOrder) : List UInt8 → Option (List Symbol) :=
  readPlainSteps (step32 order)

/-- Reads units of 32 bits in the order that a mark tells. -/
def read32Marked (bytes : List UInt8) : Option (List Symbol) :=
  let (order, rest) := marked 4 bytes
  read32 order rest

example : read16Marked [0xff, 0xfe, 0x68, 0x00] = some [.char 'h'] := by decide +kernel

example : read16 .highFirst [0xd8, 0x3d, 0xde, 0x00] = some [.char '😀'] := by decide +kernel

/-! ### The sets -/

/-- The sets of units. -/
def sets : List CharacterSet :=
  [⟨["utf_8", "cp65001", "u8", "utf", "utf8", "utf8_ucs2", "utf8_ucs4"], read8⟩,
    ⟨["utf_8_sig"], read8Marked⟩,
    ⟨["utf_16", "u16", "utf16"], read16Marked⟩,
    ⟨["utf_16_be", "unicodebigunmarked", "utf_16be"], read16 .highFirst⟩,
    ⟨["utf_16_le", "unicodelittleunmarked", "utf_16le"], read16 .lowFirst⟩,
    ⟨["utf_32", "u32", "utf32"], read32Marked⟩,
    ⟨["utf_32_be", "utf_32be"], read32 .highFirst⟩,
    ⟨["utf_32_le", "utf_32le"], read32 .lowFirst⟩]

end BallotWatch.Text.Units
