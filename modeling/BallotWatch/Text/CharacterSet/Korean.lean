/-
This file reads Korean sets in which bytes of the upper half begin pairs.

A grid has the syllables in use. Those it lacks are written as a sign with three letters after it,
or have pairs of their own, or, in another set, every syllable is a pair in which each letter has
five bits.
-/

import BallotWatch.Text.CharacterSet.Basic
import BallotWatch.Text.Grid.Hangul
import BallotWatch.Text.Grid.KsX1001

namespace BallotWatch.Text.Korean

/-! ### Letters and syllables -/

/-- The letters that begin a syllable. -/
def initials : List Char :=
  "ㄱㄲㄴㄷㄸㄹㅁㅂㅃㅅㅆㅇㅈㅉㅊㅋㅌㅍㅎ".toList

/-- The letters in the middle of a syllable. -/
def medials : List Char :=
  "ㅏㅐㅑㅒㅓㅔㅕㅖㅗㅘㅙㅚㅛㅜㅝㅞㅟㅠㅡㅢㅣ".toList

/-- The letters at the end of a syllable. -/
def finals : List Char :=
  "ㄱㄲㄳㄴㄵㄶㄷㄹㄺㄻㄼㄽㄾㄿㅀㅁㅂㅄㅅㅆㅇㅈㅊㅋㅌㅍㅎ".toList

/-- The syllable of letters by their places; the last is counted from one on, and zero if there is
none. -/
def syllable (initial medial final : Nat) : Char :=
  Char.ofNat (0xac00 + (initial * medials.length + medial) * (finals.length + 1) + final)

/-! ### Syllables behind a sign -/

/-- The first byte of letters in the grid. -/
def letterRow : UInt8 :=
  0xa4

/-- The second byte of the sign before three letters, which is also that of a missing last one. -/
def filler : UInt8 :=
  0xd4

/-- The letter of a second byte. -/
def letter (byte : UInt8) : Char :=
  Char.ofNat (0x3131 + byte.toNat - 0xa1)

/-- The syllable of three letters behind the sign. -/
def spelled? (initial medial final : UInt8) : Option Char := do
  let last ← if final = filler then some 0 else (finals.idxOf? (letter final)).map (· + 1)
  return syllable (← initials.idxOf? (letter initial)) (← medials.idxOf? (letter medial)) last

/-- The character of a pair in the grid. -/
def general? (first second : Nat) : Option Char :=
  if first < 0x80 ∨ second < 0x80 then none else Grid.ksX1001.char? (first - 0x80) (second - 0x80)

/-- A character as a text. -/
def single? (c? : Option Char) : Option (List Char) :=
  c?.map fun c => [c]

/-- A step of reading the set with the sign. -/
def signStep (first : UInt8) (rest : List UInt8) : Step Unit :=
  if first.toNat < 0x80 then .ascii first ()
  else if first = letterRow ∧ rest.head? = some filler then
    match rest with
    | _ :: one :: initial :: two :: medial :: three :: final :: _ =>
      let areLetters := [one, two, three].all (· == letterRow)
      match (if areLetters then spelled? initial medial final else none) with
      | some c => .chars [c] 8 ()
      | none => .lost 1 ()
    | _ => .lost (1 + rest.length) ()
  else .pair (fun row cell => single? (general? row cell)) first rest

/-! ### Syllables of five bits to a letter -/

/-- What five bits stand for: nothing, a missing letter, or a letter by its place. -/
inductive Bits
  | nothing
  | missing
  | letter (place : Nat)

/-- The first letter of five bits. -/
def initialBits (bits : Nat) : Bits :=
  if bits = 1 then .missing
  else if 2 ≤ bits ∧ bits < 2 + initials.length then .letter (bits - 2)
  else .nothing

/-- The second letter of five bits, of which every eighth and the next one are left out. -/
def medialBits (bits : Nat) : Bits :=
  if bits = 2 then .missing
  else if bits < 3 ∨ bits % 8 < 2 ∨ 29 < bits then .nothing
  else .letter (bits - 3 - bits / 8 * 2)

/-- The last letter of five bits, of which one in the middle is left out. -/
def finalBits (bits : Nat) : Bits :=
  if bits = 1 then .missing
  else if 2 ≤ bits ∧ bits ≤ 17 then .letter (bits - 2)
  else if 19 ≤ bits ∧ bits ≤ 29 then .letter (bits - 3)
  else .nothing

/-- The character of three letters of five bits: a syllable, a letter alone, or a wide space. -/
def bitsChar? (initial medial final : Bits) : Option Char :=
  match initial, medial, final with
  | .letter one, .letter two, .letter three => some (syllable one two (three + 1))
  | .letter one, .letter two, .missing => some (syllable one two 0)
  | .letter one, .missing, .missing => initials[one]?
  | .missing, .letter two, .missing => medials[two]?
  | .missing, .missing, .letter three => finals[three]?
  | .missing, .missing, .missing => some '\u3000'
  | _, _, _ => none

/-- The character of a pair of the grid in this set, which has two rows to a byte. The letters of
the grid are not among them. -/
def twoRows? (first second : Nat) : Option Char :=
  if first < 0xd9 ∨ first = 0xdf ∨ 0xf9 < first ∨ second < 0x31 ∨
      (0x80 ≤ second ∧ second < 0x91) ∨ second % 0x80 = 0x7f ∨
      (first = 0xda ∧ 0xa1 ≤ second ∧ second ≤ 0xd3) then none
  else
    let row := if first < 0xe0 then 2 * (first - 0xd9) else 2 * first - 0x197
    let cell := if second < 0x91 then second - 0x31 else second - 0x43
    if cell < 94 then Grid.ksX1001.char? (row + 0x21) (cell + 0x21)
    else Grid.ksX1001.char? (row + 0x22) (cell - 94 + 0x21)

/-- The first byte of the pairs of the grid. -/
def firstTwoRows : Nat :=
  0xd8

/-- The character of a pair in this set. -/
def combined? (first second : Nat) : Option Char :=
  if first < firstTwoRows then
    bitsChar? (initialBits (first / 4 % 32)) (medialBits (first % 4 * 8 + second / 32))
      (finalBits (second % 32))
  else twoRows? first second

/-! ### The sets -/

/-- The Korean sets of pairs. -/
def sets : List CharacterSet :=
  [⟨["euc_kr", "euckr", "korean", "ks_c_5601", "ks_c_5601_1987", "ks_x_1001", "ksc5601", "ksx1001",
      "x_mac_korean"], readPlainSteps signStep⟩,
    ⟨["cp949", "949", "ms949", "uhc"],
      readPairs fun first second =>
        single? (general? first second <|> Grid.hangulMore.char? first second)⟩,
    ⟨["johab", "cp1361", "ms1361"],
      readPairs fun first second => single? (combined? first second)⟩]

end BallotWatch.Text.Korean
