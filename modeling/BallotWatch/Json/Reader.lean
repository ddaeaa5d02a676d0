/-
This file reads JSON texts.

The reader keeps to the grammar of the format with three additions: the words for no number and
for the two infinities stand for values too. A name that occurs twice in an object keeps its
first place and takes its last value. Whole numbers are exact up to a limit on their digits, and
lists and objects can stand inside one another up to a limit on their depth. Going below that
depth is a fault of its own, found before anything that stands later in the text.

A text given as bytes may be in UTF-8, UTF-16 or UTF-32. A byte order mark tells which, and
without one the zero bytes among the first four do, since the first character of a JSON text is
always in the ASCII set. Half of a surrogate pair may stand alone in any of them, and escapes may
give one.
-/

import BallotWatch.Decimal.Reading
import BallotWatch.Json.Value
import BallotWatch.Text.Utf8

namespace BallotWatch.Json.Reader

open Text

/-! ### What can be wrong with a text -/

/-- What other values can stand in. -/
inductive Container
  | list
  | object
  deriving DecidableEq, Repr

/-- Why a text is no value: it does not follow the grammar, or goes too deep at a container. -/
inductive ReadFault
  | malformed
  | tooDeep (container : Container)
  deriving DecidableEq, Repr

/-- The word for a container in a message. -/
def Container.name : Container → String
  | list => "array"
  | object => "object"

/-- What is said about a container below the greatest depth. -/
def Container.depthMessage (container : Container) : String :=
  s!"maximum recursion depth exceeded while decoding a JSON {container.name} from a unicode string"

/-- What a reader takes from the start of a text, and the rest of the text. -/
abbrev Taken (Value : Type) := Except ReadFault (Value × List Symbol)

/-! ### Characters inside texts -/

/-- The value of a symbol as a hexadecimal digit. -/
def hexValue? : Symbol → Option Nat
  | .char c => asciiHexDigit? c
  | .half _ => none

/-- Four hexadecimal digits as a number, and the rest. -/
def fourDigits? : List Symbol → Option (Nat × List Symbol)
  | a :: b :: c :: d :: rest =>
    match hexValue? a, hexValue? b, hexValue? c, hexValue? d with
    | some p, some q, some r, some s => some (((p * 16 + q) * 16 + r) * 16 + s, rest)
    | _, _, _, _ => none
  | _ => none

/-- The lower half of a surrogate pair, written as an escape of its own. -/
def lowerHalf? : List Symbol → Option (Nat × List Symbol)
  | .char '\\' :: .char 'u' :: rest =>
    match fourDigits? rest with
    | some (code, rest) => if 0xdc00 ≤ code ∧ code ≤ 0xdfff then some (code, rest) else none
    | none => none
  | _ => none

/-- The symbol of an escape by number, after its letter. Two escapes can make one character
together; half of a pair alone stays what it is. -/
def numberedEscape? (text : List Symbol) : Option (Symbol × List Symbol) :=
  match fourDigits? text with
  | none => none
  | some (code, rest) =>
    if 0xd800 ≤ code ∧ code ≤ 0xdbff then
      match lowerHalf? rest with
      | some (lower, rest) =>
        some (.char (Char.ofNat (0x10000 + (code - 0xd800) * 0x400 + (lower - 0xdc00))), rest)
      | none => some (.half code, rest)
    else some (.ofCode code, rest)

/-- The character of an escape by letter. -/
def letterEscape? : Symbol → Option Char
  | .char '"' => some '"'
  | .char '\\' => some '\\'
  | .char '/' => some '/'
  | .char 'b' => some '\x08'
  | .char 'f' => some '\x0c'
  | .char 'n' => some '\n'
  | .char 'r' => some '\r'
  | .char 't' => some '\t'
  | _ => none

/-- Whether a symbol cannot stand inside a text as it is: the controls, and the backslash. -/
def mustBeEscaped : Symbol → Bool
  | .char c => c.toNat < 32 || c == '\\'
  | .half _ => false

/-- The symbols up to the closing quote, and the rest. -/
def textBody : Nat → List Symbol → Taken (List Symbol)
  | 0, _ => .error .malformed
  | _ + 1, [] => .error .malformed
  | _ + 1, .char '"' :: rest => .ok ([], rest)
  | fuel + 1, .char '\\' :: .char 'u' :: rest =>
    match numberedEscape? rest with
    | none => .error .malformed
    | some (symbol, rest) =>
      (textBody fuel rest).map fun (body, rest) => (symbol :: body, rest)
  | fuel + 1, .char '\\' :: letter :: rest =>
    match letterEscape? letter with
    | none => .error .malformed
    | some c => (textBody fuel rest).map fun (body, rest) => (.char c :: body, rest)
  | fuel + 1, symbol :: rest =>
    if mustBeEscaped symbol then .error .malformed
    else (textBody fuel rest).map fun (body, rest) => (symbol :: body, rest)

/-! ### Numbers -/

/-- The most digits a whole number may have. -/
def digitLimit : Nat :=
  4300

/-- The digits at the start of a text, and the rest. -/
def takeDigits : List Symbol → List Char × List Symbol
  | .char c :: rest =>
    if c.isDigit then
      let (digits, rest) := takeDigits rest
      (c :: digits, rest)
    else ([], .char c :: rest)
  | text => ([], text)

/-- The whole part of a number: one zero, or digits that do not start with zero. -/
def wholePart? : List Symbol → Option (List Char × List Symbol)
  | .char '0' :: rest => some (['0'], rest)
  | text =>
    match takeDigits text with
    | ([], _) => none
    | found => some found

/-- The digits after a point. A point without digits is not part of the number. -/
def fractionPart : List Symbol → List Char × List Symbol
  | .char '.' :: rest =>
    match takeDigits rest with
    | ([], _) => ([], .char '.' :: rest)
    | found => found
  | text => ([], text)

/-- A sign at the start of a text: whether it is a minus, and the rest. -/
def takeSign : List Symbol → Bool × List Symbol
  | .char '-' :: rest => (true, rest)
  | .char '+' :: rest => (false, rest)
  | text => (false, text)

/-- The exponent. A letter without digits is not part of the number. -/
def exponentPart (text : List Symbol) : Option Int × List Symbol :=
  match text with
  | .char letter :: rest =>
    if letter == 'e' || letter == 'E' then
      let (negative, afterSign) := takeSign rest
      match takeDigits afterSign with
      | ([], _) => (none, text)
      | (digits, rest) =>
        let size : Int := Decimal.plainValue digits
        (some (if negative then -size else size), rest)
    else (none, text)
  | _ => (none, text)

/-- A number after its sign. -/
def number (negative : Bool) (text : List Symbol) : Taken Json :=
  match wholePart? text with
  | none => .error .malformed
  | some (whole, rest) =>
    let (fraction, rest) := fractionPart rest
    let (exponent, rest) := exponentPart rest
    if fraction.isEmpty && exponent.isNone then
      if whole.length ≤ digitLimit then
        let size : Int := Decimal.plainValue whole
        .ok (int (if negative then -size else size), rest)
      else .error .malformed
    else
      let digits := Decimal.plainValue (whole ++ fraction)
      .ok (real (.ofDecimal negative digits (exponent.getD 0 - fraction.length)), rest)

/-! ### Values -/

/-- The four blanks of the format. -/
def isSpace : Symbol → Bool
  | .char c => c == ' ' || c == '\t' || c == '\n' || c == '\r'
  | .half _ => false

/-- Leaves out blanks at the start. -/
def skipSpaces (text : List Symbol) : List Symbol :=
  text.dropWhile isSpace

/-- The words of the format and their values. -/
def words : List (String × Json) :=
  [("null", .null), ("true", .bool true), ("false", .bool false), ("NaN", .real .notANumber),
    ("Infinity", .real (.infinite false)), ("-Infinity", .real (.infinite true))]

/-- One of the words at the start of a text. -/
def word? (text : List Symbol) : Option (Json × List Symbol) :=
  words.findSome? fun (word, value) =>
    if (SymbolText.ofString word).symbols.isPrefixOf text then some (value, text.drop word.length)
    else none

/-- A value that is a word or a number. -/
def plainValue (text : List Symbol) : Taken Json :=
  match word? text with
  | some found => .ok found
  | none =>
    match text with
    | .char '-' :: rest => number true rest
    | text => number false text

/-- How deep lists and objects can stand inside one another. -/
def depthLimit : Nat :=
  980

mutual

/-- A value at the start of a text, and the rest, with so many containers still allowed inside
one another. Each call takes up one unit of the first argument, which bounds the search. -/
def value : Nat → Nat → List Symbol → Taken Json
  | 0, _, _ => .error .malformed
  | fuel + 1, _, .char '"' :: rest =>
    (textBody fuel rest).map fun (body, rest) => (str ⟨body⟩, rest)
  | _ + 1, 0, .char '[' :: _ => .error (.tooDeep .list)
  | _ + 1, 0, .char '\x7b' :: _ => .error (.tooDeep .object)
  | fuel + 1, depth + 1, .char '[' :: rest =>
    match skipSpaces rest with
    | .char ']' :: rest => .ok (arr [], rest)
    | rest => (items fuel depth rest).map fun (items, rest) => (arr items, rest)
  | fuel + 1, depth + 1, .char '\x7b' :: rest =>
    match skipSpaces rest with
    | .char '\x7d' :: rest => .ok (obj [], rest)
    | rest =>
      (members fuel depth rest).map fun (members, rest) =>
        (obj (members.foldl (fun present (name, value) => putMember name value present) []), rest)
  | _ + 1, _, text => plainValue text

/-- The items of a list up to its closing bracket. -/
def items : Nat → Nat → List Symbol → Taken (List Json)
  | 0, _, _ => .error .malformed
  | fuel + 1, depth, text =>
    match value fuel depth text with
    | .error fault => .error fault
    | .ok (item, rest) =>
      match skipSpaces rest with
      | .char ']' :: rest => .ok ([item], rest)
      | .char ',' :: rest =>
        (items fuel depth (skipSpaces rest)).map fun (items, rest) => (item :: items, rest)
      | _ => .error .malformed

/-- The members of an object up to its closing brace, in the order written. -/
def members : Nat → Nat → List Symbol → Taken (List Member)
  | 0, _, _ => .error .malformed
  | fuel + 1, depth, .char '"' :: rest =>
    match textBody fuel rest with
    | .error fault => .error fault
    | .ok (name, rest) =>
      match skipSpaces rest with
      | .char ':' :: rest =>
        match value fuel depth (skipSpaces rest) with
        | .error fault => .error fault
        | .ok (value, rest) =>
          match skipSpaces rest with
          | .char '\x7d' :: rest => .ok ([(⟨name⟩, value)], rest)
          | .char ',' :: rest =>
            (members fuel depth (skipSpaces rest)).map fun (members, rest) =>
              ((⟨name⟩, value) :: members, rest)
          | _ => .error .malformed
      | _ => .error .malformed
  | _ + 1, _, _ => .error .malformed

end

/-- A whole text as a value. -/
def ofText (text : SymbolText) : Except ReadFault Json :=
  match value (2 * text.symbols.length + 2) depthLimit (skipSpaces text.symbols) with
  | .error fault => .error fault
  | .ok (value, rest) => if (skipSpaces rest).isEmpty then .ok value else .error .malformed

/-! ### Bytes -/

/-- The ways a text can be laid out in bytes. -/
inductive Encoding
  | utf8
  | utf16 (bigEndian : Bool)
  | utf32 (bigEndian : Bool)
  deriving DecidableEq, Repr

/-- The encoding of some bytes and the length of the byte order mark before the text. -/
def encodingOf (bytes : List UInt8) : Encoding × Nat :=
  match bytes with
  | 0xff :: 0xfe :: 0 :: 0 :: _ => (.utf32 false, 4)
  | 0 :: 0 :: 0xfe :: 0xff :: _ => (.utf32 true, 4)
  | 0xff :: 0xfe :: _ => (.utf16 false, 2)
  | 0xfe :: 0xff :: _ => (.utf16 true, 2)
  | 0xef :: 0xbb :: 0xbf :: _ => (.utf8, 3)
  | a :: b :: c :: d :: _ =>
    if a == 0 then if b != 0 then (.utf16 true, 0) else (.utf32 true, 0)
    else if b == 0 then if c != 0 || d != 0 then (.utf16 false, 0) else (.utf32 false, 0)
    else (.utf8, 0)
  | [a, b] =>
    if a == 0 then (.utf16 true, 0) else if b == 0 then (.utf16 false, 0) else (.utf8, 0)
  | _ => (.utf8, 0)

/-- UTF-8 in which half of a surrogate pair may stand alone. -/
def lenientUtf8? : Nat → List UInt8 → Option (List Symbol)
  | _, [] => some []
  | 0, _ => none
  | fuel + 1, first :: rest =>
    match first, rest with
    | 0xed, second :: third :: after =>
      if 0xa0 ≤ second && second ≤ 0xbf && 0x80 ≤ third && third ≤ 0xbf then
        let code := 0xd000 + second.toNat % 64 * 64 + third.toNat % 64
        (lenientUtf8? fuel after).map (.half code :: ·)
      else lenientCharacter? fuel first rest
    | _, _ => lenientCharacter? fuel first rest
where
  /-- One character by the table of sequences, and then the text after it. -/
  lenientCharacter? (fuel : Nat) (first : UInt8) (rest : List UInt8) : Option (List Symbol) :=
    match Utf8.Lead.ofByte? first with
    | none => none
    | some lead =>
      match Utf8.follow lead.payload lead.following rest with
      | .error _ => none
      | .ok (code, remaining) => (lenientUtf8? fuel remaining).map (.char (Char.ofNat code) :: ·)

/-- Pairs of bytes as numbers. -/
def units16? (bigEndian : Bool) : List UInt8 → Option (List Nat)
  | [] => some []
  | [_] => none
  | a :: b :: rest =>
    let unit := if bigEndian then a.toNat * 256 + b.toNat else b.toNat * 256 + a.toNat
    (units16? bigEndian rest).map (unit :: ·)

/-- Symbols of UTF-16 units. Surrogates pair up; one alone stays. -/
def ofUnits16 : List Nat → List Symbol
  | [] => []
  | [unit] => [.ofCode unit]
  | unit :: next :: rest =>
    if 0xd800 ≤ unit ∧ unit ≤ 0xdbff ∧ 0xdc00 ≤ next ∧ next ≤ 0xdfff then
      .char (Char.ofNat (0x10000 + (unit - 0xd800) * 0x400 + (next - 0xdc00))) :: ofUnits16 rest
    else .ofCode unit :: ofUnits16 (next :: rest)

/-- Groups of four bytes as symbols. -/
def units32? (bigEndian : Bool) : List UInt8 → Option (List Symbol)
  | [] => some []
  | a :: b :: c :: d :: rest =>
    let value (p q r s : UInt8) : Nat :=
      ((p.toNat * 256 + q.toNat) * 256 + r.toNat) * 256 + s.toNat
    let code := if bigEndian then value a b c d else value d c b a
    if code ≤ 0x10ffff then (units32? bigEndian rest).map (.ofCode code :: ·) else none
  | _ => none

/-- The text of some bytes. -/
def textOfBytes? (bytes : List UInt8) : Option SymbolText :=
  let (encoding, mark) := encodingOf bytes
  let body := bytes.drop mark
  let symbols? :=
    match encoding with
    | .utf8 => lenientUtf8? body.length body
    | .utf16 bigEndian => (units16? bigEndian body).map ofUnits16
    | .utf32 bigEndian => units32? bigEndian body
  symbols?.map SymbolText.mk

/-- The value of a JSON text given as bytes. -/
def ofBytes (bytes : List UInt8) : Except ReadFault Json :=
  match textOfBytes? bytes with
  | none => .error .malformed
  | some text => ofText text

end BallotWatch.Json.Reader
