/-
This file writes labels of all scripts with ASCII letters, digits and hyphens.

The ASCII characters of a label come first, and a hyphen after them. Each other character is then a
number: how many places are passed over between the character written before it and this one, when
all places are taken in turn, for each code point in ascending order. The numbers are written with
36 digits, the lowest first, and a digit below a threshold ends one. The thresholds follow the size
of the numbers before.
-/

import BallotWatch.Text.Symbol

namespace BallotWatch.Text.Punycode

/-! ### Digits and thresholds -/

/-- The number of digits. -/
def base : Nat :=
  36

/-- The first code point that is not written as it is. -/
def firstCode : Nat :=
  0x80

/-- The bias of the first number. -/
def firstBias : Nat :=
  72

/-- The digit of a value: the letters come before the numerals. -/
def digit (value : Nat) : Char :=
  if value < 26 then Char.ofNat ('a'.toNat + value) else Char.ofNat ('0'.toNat + (value - 26))

/-- The value of a digit, whose letter can be of either case. -/
def value? (c : Char) : Option Nat :=
  if c.isLower then some (c.toNat - 'a'.toNat)
  else if c.isUpper then some (c.toNat - 'A'.toNat)
  else if c.isDigit then some (c.toNat - '0'.toNat + 26)
  else none

/-- The threshold of a digit, which lies between 1 and 26. -/
def threshold (bias place : Nat) : Nat :=
  min 26 (max 1 (base * (place + 1) - bias))

theorem threshold_pos (bias place : Nat) : 0 < threshold bias place := by
  simp only [threshold]
  omega

/-- The bias that fits the size of a number. -/
def biasOf (size : Nat) : Nat :=
  if size ≤ 455 then base * size / (size + 38) else base + biasOf (size / 35)
termination_by size
decreasing_by exact Nat.div_lt_self (by omega) (by omega)

/-- The bias after a number, of which the first counts less, with so many characters written. -/
def nextBias (number characters : Nat) (isFirst : Bool) : Nat :=
  let size := if isFirst then number / 700 else number / 2
  biasOf (size + size / characters)

/-! ### Writing -/

/-- The digits of a number from a place on. -/
def digits (bias place number : Nat) : List Char :=
  let least := threshold bias place
  if number < least then [digit number]
  else
    digit (least + (number - least) % (base - least)) ::
      digits bias (place + 1) ((number - least) / (base - least))
termination_by number
decreasing_by
  have positive := threshold_pos bias place
  have quotient := Nat.div_le_self (number - threshold bias place) (base - threshold bias place)
  simp +zetaDelta only [Nat.not_lt] at *
  omega

/-- A label that is being written: the text so far, the places passed over since the last number,
the bias, and how many characters of the label have been written. -/
structure Writing where
  text : List Char
  passed : Nat
  bias : Nat
  written : Nat

/-- Passes the next character of the label, in the turn of a code point. -/
def Writing.pass (plain code : Nat) (writing : Writing) (c : Char) : Writing :=
  if c.toNat < code then { writing with passed := writing.passed + 1 }
  else if c.toNat = code then
    { text := writing.text ++ digits writing.bias 0 writing.passed
      passed := 0
      bias := nextBias writing.passed (writing.written + 1) (writing.written == plain)
      written := writing.written + 1 }
  else writing

/-- Takes the turns of code points, each of which is given with the one before it. -/
def Writing.turns (label : List Char) (plain : Nat) : List (Nat × Nat) → Writing → Writing
  | [], writing => writing
  | (before, code) :: rest, writing =>
    let passed := writing.passed + (code - before) * (writing.written + 1)
    let writing := label.foldl (Writing.pass plain code) { writing with passed }
    Writing.turns label plain rest { writing with passed := writing.passed + 1 }

/-- The written form of a label. -/
def encode (label : List Char) : List Char :=
  let plain := label.filter fun c => decide (c.toNat < firstCode)
  let codes := (((label.map Char.toNat).filter (firstCode ≤ ·)).mergeSort (· ≤ ·)).eraseDups
  let front := if plain.isEmpty then [] else plain ++ ['-']
  let turns := (firstCode :: codes.map (· + 1)).zip codes
  (Writing.turns label plain.length turns ⟨front, 0, firstBias, plain.length⟩).text

/-! ### Reading -/

/-- A label that is being read: its code points so far, the last code point and the place behind
it, the bias, whether no number has been read, and the part of a number that has been read: its
value, what the next digit counts, and that digit's place. -/
structure Reading where
  codes : List Nat
  code : Nat := firstCode
  place : Nat := 0
  bias : Nat := firstBias
  isFirst : Bool := true
  number : Nat := 0
  weight : Nat := 1
  digitPlace : Nat := 0

/-- The greatest code point. -/
def maxCode : Nat :=
  0x10ffff

/-- Takes in a number that has been read. -/
def Reading.insert? (reading : Reading) (number : Nat) : Option Reading :=
  let places := reading.codes.length + 1
  let code := reading.code + (reading.place + number) / places
  let place := (reading.place + number) % places
  if code ≤ maxCode then
    some {
      codes := reading.codes.take place ++ code :: reading.codes.drop place
      code
      place := place + 1
      bias := nextBias number places reading.isFirst
      isFirst := false }
  else none

/-- Takes in a digit. -/
def Reading.step? (reading : Reading) (c : Char) : Option Reading :=
  match value? c with
  | none => none
  | some value =>
    let least := threshold reading.bias reading.digitPlace
    let number := reading.number + value * reading.weight
    if value < least then reading.insert? number
    else
      some { reading with
        number
        weight := reading.weight * (base - least)
        digitPlace := reading.digitPlace + 1 }

/-- The label of a written form, unless it has a sign that is no digit, ends within a number, or has
a number beyond all code points. -/
def decode? (text : List Char) : Option (List Symbol) :=
  let written := (text.reverse.takeWhile (· != '-')).reverse
  let plain := (text.take (text.length - written.length)).dropLast
  match written.foldlM Reading.step? ({ codes := plain.map Char.toNat } : Reading) with
  | none => none
  | some reading =>
    if reading.digitPlace = 0 then some (reading.codes.map Symbol.ofCode) else none

example : encode "bücher".toList = "bcher-kva".toList := by decide +kernel

example : decode? "bcher-kva".toList = some ("bücher".toList.map .char) := by decide +kernel

example : decode? "a!".toList = none := by decide +kernel

end BallotWatch.Text.Punycode
