/-
This file reads the sets in which characters are written with those of the ASCII set.

In the mail-safe form units of 16 bits are written with letters of six bits each, between a plus
sign and a character that is no such letter. In the two forms with escapes a character is written
by its number behind a backslash; bytes that are not escaped are the first 256 code points. Two more
forms are made for the labels of hostnames.
-/

import BallotWatch.Text.CharacterSet.Units
import BallotWatch.Text.Composed
import BallotWatch.Text.Digit
import BallotWatch.Text.Lowercase
import BallotWatch.Text.Punycode

namespace BallotWatch.Text.Written

/-- The character that a byte is among the first 256 code points. -/
def byteChar (byte : UInt8) : Char :=
  Char.ofNat byte.toNat

/-! ### The mail-safe form -/

/-- The letters of six bits in the order of their values. -/
def sixBitLetters : List Char :=
  "ABCDEFGHIJKLMNOPQRSTUVWXYZabcdefghijklmnopqrstuvwxyz0123456789+/".toList

/-- The value of a letter of six bits. -/
def sixBits? (byte : UInt8) : Option Nat :=
  sixBitLetters.idxOf? (byteChar byte)

/-- Where in a text a reader is: among characters that stand for themselves, or among letters, with
the bits that make no unit yet and the first half of a pair that waits for the second. -/
inductive MailState
  | plain
  | letters (bits count : Nat) (half? : Option Nat)

/-- Whether nothing is missing at the end of a text. -/
def MailState.isComplete : MailState → Bool
  | plain => true
  | letters bits count half? => half?.isNone && decide (count < 6) && bits == 0

/-- The symbols of a unit after the first half of a pair, if one waits, and the half that waits
then. A half that is not followed by its other half stands alone. -/
def unitSymbols (half? : Option Nat) (unit : Nat) : List Symbol × Option Nat :=
  let alone (before : List Symbol) : List Symbol × Option Nat :=
    if Units.isFirstHalf unit then (before, some unit) else (before ++ [.ofCode unit], none)
  match half? with
  | none => alone []
  | some half =>
    if Units.isSecondHalf unit then ([.char (Char.ofNat (Units.pairCode half unit))], none)
    else alone [.half half]

/-- A step among characters that stand for themselves. A plus sign opens a run of letters, and for
itself it stands before a hyphen. -/
def plainStep (first : UInt8) (rest : List UInt8) : Step MailState :=
  if byteChar first = '+' then
    match rest with
    | [] => .read [] 1 (.letters 0 0 none)
    | second :: _ =>
      if byteChar second = '-' then .chars ['+'] 2 .plain
      else if (sixBits? second).isSome then .read [] 1 (.letters 0 0 none)
      else .lost 0 .plain
  else if first.toNat < 0x80 then .ascii first .plain
  else .lost 1 .plain

/-- The step behind the last letter of a run, in which no bits may be left. A hyphen belongs to the
run. -/
def closingStep (half? : Option Nat) (first : UInt8) : Step MailState :=
  let before := (half?.map Symbol.half).toList
  if byteChar first = '-' then .read before 1 .plain
  else if first.toNat < 0x80 then .read (before ++ [.char (byteChar first)]) 1 .plain
  else .lost 1 .plain

/-- A step of reading the mail-safe form. -/
def mailStep (state : MailState) (first : UInt8) (rest : List UInt8) : Step MailState :=
  match state with
  | .plain => plainStep first rest
  | .letters bits count half? =>
    match sixBits? first with
    | some value =>
      let bits := bits * 64 + value
      let count := count + 6
      if count < 16 then .read [] 1 (.letters bits count half?)
      else
        let spare := 1 <<< (count - 16)
        let (symbols, half?) := unitSymbols half? (bits / spare)
        .read symbols 1 (.letters (bits % spare) (count - 16) half?)
    | none => if 6 ≤ count ∨ bits ≠ 0 then .lost 0 state else closingStep half? first

/-- Reads the mail-safe form. -/
def readMail (bytes : List UInt8) : Option (List Symbol) :=
  readSteps mailStep MailState.isComplete bytes.length .plain bytes

example : readMail "a+AOk-".toUTF8.data.toList = some [.char 'a', .char 'é'] := by
  decide +kernel

/-! ### Forms with escapes -/

/-- The number that so many digits at the front stand for. -/
def hexNumber? (digits : Nat) (bytes : List UInt8) : Option Nat :=
  if bytes.length < digits then none
  else
    (bytes.take digits).foldlM (fun number byte => do
      return number * 16 + (← asciiHexDigit? (byteChar byte))) 0

/-- The step of an escape with so many digits behind its letter. -/
def numberedStep (digits : Nat) (bytes : List UInt8) : Step Unit :=
  match hexNumber? digits bytes with
  | some code => if code ≤ 0x10ffff then .read [.ofCode code] (2 + digits) () else .lost 0 ()
  | none => .lost 0 ()

/-- The number that up to three octal digits at the front stand for, and how many they are. -/
def octalNumber (bytes : List UInt8) : Nat × Nat :=
  let isOctal (byte : UInt8) : Bool := decide ('0' ≤ byteChar byte ∧ byteChar byte ≤ '7')
  let digits := (bytes.take 3).takeWhile isOctal
  (digits.foldl (fun number byte => number * 8 + (byte.toNat - '0'.toNat)) 0, digits.length)

/-- The escapes of one letter, the end of a line apart. -/
def letterEscapes : List (Char × Char) :=
  [('\\', '\\'), ('\'', '\''), ('"', '"'), ('a', '\x07'), ('b', '\x08'), ('t', '\t'), ('n', '\n'),
    ('v', '\x0b'), ('f', '\x0c'), ('r', '\r')]

/-- A step of reading the form with all escapes. A backslash before any other character is one, and
the end of a line behind a backslash is left out. -/
def escapeStep (first : UInt8) (rest : List UInt8) : Step Unit :=
  if byteChar first ≠ '\\' then .chars [byteChar first] 1 ()
  else
    match rest with
    | [] => .lost 0 ()
    | second :: digits =>
      match byteChar second with
      | '\n' => .read [] 2 ()
      | 'x' => numberedStep 2 digits
      | 'u' => numberedStep 4 digits
      | 'U' => numberedStep 8 digits
      | 'N' => .lost 0 ()
      | c =>
        match letterEscapes.lookup c, octalNumber rest with
        | some escaped, _ => .chars [escaped] 2 ()
        | none, (code, count + 1) => .read [.ofCode code] (2 + count) ()
        | none, (_, 0) => .chars ['\\', c] 2 ()

/-- A step of reading the form with escapes by number alone. -/
def numberEscapeStep (first : UInt8) (rest : List UInt8) : Step Unit :=
  if byteChar first ≠ '\\' then .chars [byteChar first] 1 ()
  else
    match rest with
    | [] => .chars ['\\'] 1 ()
    | second :: digits =>
      match byteChar second with
      | 'u' => numberedStep 4 digits
      | 'U' => numberedStep 8 digits
      | c => .chars ['\\', c] 2 ()

/-! ### Forms for hostnames -/

/-- The characters of bytes that are all of the ASCII set. -/
def asciiText? (bytes : List UInt8) : Option (List Char) :=
  if bytes.all fun byte => decide (byte.toNat < 0x80) then some (bytes.map byteChar) else none

/-- Reads the form of labels. -/
def readLabel (bytes : List UInt8) : Option (List Symbol) :=
  (asciiText? bytes).bind Punycode.decode?

/-- The sign in front of the labels of names that are written in the form of labels. -/
def labelSign : List Char :=
  "xn--".toList

/-- The most characters of a label of a name. -/
def maxNameLabel : Nat :=
  63

/-- Whether a label is the one that is written for these symbols: they are small letters in composed
form, not all of the ASCII set. -/
def isWrittenFor (text : List Char) (symbols : List Symbol) : Bool :=
  let label := SymbolText.chars ⟨symbols⟩
  symbols.all (Symbol.is isPrintable) && label.any (fun c => decide (0x80 ≤ c.toNat)) &&
    decide (text.length ≤ maxNameLabel) && composed label == label &&
    (lowercase (String.ofList label)).toList == label &&
    labelSign ++ Punycode.encode label == text.map Char.toLower

/-- Reads a label of a name. -/
def readNameLabel (text : List Char) : Option (List Symbol) :=
  if labelSign.isPrefixOf text then
    (Punycode.decode? (text.drop labelSign.length)).filter (isWrittenFor text)
  else some (text.map .char)

/-- Reads names. -/
def readName (bytes : List UInt8) : Option (List Symbol) := do
  let labels ← (pieces (· == '.') (← asciiText? bytes)).mapM readNameLabel
  return [.char '.'].intercalate labels

/-! ### The sets -/

/-- The sets that are written with characters of the ASCII set. One of them has no meaning for any
bytes. -/
def sets : List CharacterSet :=
  [⟨["utf_7", "u7", "unicode_1_1_utf_7", "utf7"], readMail⟩,
    ⟨["unicode_escape"], readPlainSteps escapeStep⟩,
    ⟨["raw_unicode_escape"], readPlainSteps numberEscapeStep⟩,
    ⟨["punycode"], readLabel⟩,
    ⟨["idna"], readName⟩,
    ⟨["undefined"], fun _ => none⟩]

end BallotWatch.Text.Written
