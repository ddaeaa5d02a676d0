/-
This file reads the sets in which control sequences tell what the bytes after them mean.

All bytes are of the lower half. In one set of this kind a tilde and a brace open and close a run of
pairs from one grid. In the others an escape sequence names the set of the bytes after it, and for
some of them a second set, to which one control shifts and from which another shifts back, or a
third, from which a sequence takes one character.
-/

import BallotWatch.Text.CharacterSet.Japanese
import BallotWatch.Text.Grid.Gb2312
import BallotWatch.Text.Grid.KsX1001

namespace BallotWatch.Text.Shifting

/-! ### Runs between braces -/

/-- A step of reading runs between braces, which the state says the text is in. A tilde stands for
itself before another one, and before the end of a line for nothing; inside a run neither is so. -/
def braceStep (inRun : Bool) (first : UInt8) (rest : List UInt8) : Step Bool :=
  let c := Char.ofNat first.toNat
  match c, inRun, rest.head?.map fun byte => Char.ofNat byte.toNat with
  | '~', false, some '~' => .chars ['~'] 2 false
  | '~', false, some '\x7b' => .read [] 2 true
  | '~', false, some '\n' => .read [] 2 false
  | '~', true, some '\x7d' => .read [] 2 false
  | '~', _, _ => .lost 0 inRun
  | _, false, _ => if first.toNat < 0x80 then .ascii first false else .lost 1 false
  | _, true, some second =>
    if 0x80 ≤ first.toNat then .lost 1 true
    else
      match Grid.gb2312.char? first.toNat second.toNat with
      | some found => .chars [found] 2 true
      | none => .lost 0 true
  | _, true, none => if 0x80 ≤ first.toNat then .lost 1 true else .lost 0 true

example :
    readSteps braceStep (fun _ => true) 3 false "a~~".toUTF8.data.toList =
      some [.char 'a', .char '~'] := by
  decide +kernel

/-! ### Sets named by escape sequences -/

/-- A set that an escape sequence can name. -/
inductive Named
  | ascii
  | latin
  | greek
  | japaneseLatin
  | narrow
  | general
  | olderGeneral
  | further
  | firstPlane (edition : Japanese.Edition)
  | secondPlane
  | korean
  | chinese
  deriving DecidableEq, Repr

namespace Named

/-- The letter at the end of the sequence, and whether the set has two bytes to a character. -/
def letter : Named → Char × Bool
  | ascii => ('B', false)
  | latin => ('A', false)
  | greek => ('F', false)
  | japaneseLatin => ('J', false)
  | narrow => ('I', false)
  | general => ('B', true)
  | olderGeneral => ('@', true)
  | further => ('D', true)
  | firstPlane .first => ('O', true)
  | firstPlane .second => ('Q', true)
  | secondPlane => ('P', true)
  | korean => ('C', true)
  | chinese => ('A', true)

/-- The text of one byte, if the set has such. -/
def one? (set : Named) (byte : Nat) : Option (List Char) :=
  match set with
  | ascii => some [Char.ofNat byte]
  | japaneseLatin => Japanese.single? (Japanese.latin? byte)
  | narrow => Japanese.single? (Japanese.narrow? (byte + 0x80))
  | _ => none

/-- The text of two bytes, if the set has such. -/
def two? (set : Named) (row cell : Nat) : Option (List Char) :=
  match set with
  | general | olderGeneral => Japanese.single? (Grid.jisX0208.char? row cell)
  | further => Japanese.single? (Grid.jisX0212.char? row cell)
  | firstPlane edition => Japanese.firstPlane? edition row cell
  | secondPlane => Japanese.secondPlane? .second row cell
  | korean => Japanese.single? (Grid.ksX1001.char? row cell)
  | chinese => Japanese.single? (Grid.gb2312.char? row cell)
  | _ => none

end Named

/-- What a set of this kind allows: the sets that can be named, ASCII apart, whether controls shift
between two of them, whether there is a third, and whether the general Japanese set can be named
with a mark of its revision in front. -/
structure Rules where
  named : List Named
  shifts : Bool := false
  hasThird : Bool := false
  hasRevision : Bool := true

/-- Where a text is: the sets named first, second and third, whether it has been shifted to the
second, and whether it is in an escape sequence that names none. -/
structure Place where
  first : Named := .ascii
  second : Named := .ascii
  third : Named := .ascii
  isShifted : Bool := false
  inUnknown : Bool := false

/-- The set that a letter names, if it is allowed. -/
def Rules.named? (rules : Rules) (letter : Char × Bool) : Option Named :=
  (Named.ascii :: rules.named).find? fun set => set.letter == letter

/-- Whether a character can end an escape sequence. -/
def isEnd (c : Char) : Bool :=
  c.isUpper || c == '@'

/-- The escape character. -/
def escape : Char :=
  '\x1b'

/-- The place after the escape sequence in front of a text that begins with the escape character,
and how many bytes it has, if it is one that names a set. -/
def Rules.escaped? (rules : Rules) (place : Place) (text : List Char) : Option (Place × Nat) :=
  let first (letter : Char × Bool) (count : Nat) : Option (Place × Nat) :=
    (rules.named? letter).map fun set => ({ place with first := set }, count)
  let second (letter : Char × Bool) (count : Nat) : Option (Place × Nat) :=
    (rules.named? letter).map fun set => ({ place with second := set }, count)
  match text with
  | _ :: '&' :: '@' :: c :: '$' :: 'B' :: _ =>
    if rules.hasRevision && c == escape then first ('B', true) 6 else none
  | _ :: '$' :: '(' :: c :: _ => if isEnd c then first (c, true) 4 else none
  | _ :: '$' :: ')' :: c :: _ => if isEnd c then second (c, true) 4 else none
  | _ :: '$' :: c :: _ => if isEnd c then first (c, true) 3 else none
  | _ :: '(' :: c :: _ => if isEnd c then first (c, false) 3 else none
  | _ :: ')' :: c :: _ => if isEnd c then second (c, false) 3 else none
  | _ :: '.' :: c :: _ =>
    if rules.hasThird && isEnd c then
      (rules.named? (c, false)).map fun set => ({ place with third := set }, 3)
    else none
  | _ => none

/-- The Greek letter, sign, accent or control of a byte of the upper half. -/
def greek? (byte : Nat) : Option Char :=
  let same :=
    [0xa0, 0xa3, 0xa6, 0xa7, 0xa8, 0xa9, 0xab, 0xac, 0xad, 0xb0, 0xb1, 0xb2, 0xb3, 0xb7, 0xbb, 0xbd]
  if byte = 0xa1 then some '‘'
  else if byte = 0xa2 then some '’'
  else if byte = 0xaf then some '―'
  else if byte < 0xa0 ∨ same.contains byte then some (Char.ofNat byte)
  else if 0xb4 ≤ byte ∧ byte ≤ 0xfe ∧ byte ≠ 0xd2 then some (Char.ofNat (0x2d0 + byte))
  else none

/-- The character that the third set has for a byte. -/
def third? (set : Named) (byte : Nat) : Option Char :=
  match set with
  | .latin => if byte < 0x80 then some (Char.ofNat (byte + 0x80)) else none
  | .greek => if byte < 0x80 then greek? (byte + 0x80) else some (Char.ofNat (byte - 0x80))
  | .ascii => if byte < 0x80 then some (Char.ofNat byte) else none
  | _ => none

/-- The step at an escape character. A sequence of another kind is kept as it is. -/
def Rules.escapeStep (rules : Rules) (place : Place) (first : UInt8) (rest : List UInt8) :
    Step Place :=
  match rest with
  | [] => .lost 0 place
  | kind :: others =>
    let kind := Char.ofNat kind.toNat
    if ['(', ')', '$', '.', '&'].contains kind then
      match rules.escaped? place ((first :: rest).map fun byte => Char.ofNat byte.toNat) with
      | some (place, count) => .read [] count place
      | none => .lost 0 place
    else if rules.hasThird && kind == 'N' then
      match others.head?.bind fun byte => third? place.third byte.toNat with
      | some c => .chars [c] 3 place
      | none => .lost 0 place
    else .chars [escape] 1 { place with inUnknown := true }

/-- A step of reading a set of this kind. Controls stand for themselves, and the end of a line
shifts back. -/
def Rules.step (rules : Rules) (place : Place) (first : UInt8) (rest : List UInt8) : Step Place :=
  let c := Char.ofNat first.toNat
  let set := if place.isShifted then place.second else place.first
  if place.inUnknown then .chars [c] 1 { place with inUnknown := !isEnd c }
  else if c = escape then rules.escapeStep place first rest
  else if c = '\x0f' ∧ rules.shifts then .read [] 1 { place with isShifted := false }
  else if c = '\x0e' ∧ rules.shifts then .read [] 1 { place with isShifted := true }
  else if c = '\n' then .chars [c] 1 { place with isShifted := false }
  else if c < ' ' then .chars [c] 1 place
  else if 0x80 ≤ first.toNat then .lost 1 place
  else
    match set.one? first.toNat, rest with
    | some text, _ => .chars text 1 place
    | none, second :: _ =>
      match set.two? first.toNat second.toNat with
      | some text => .chars text 2 place
      | none => .lost 0 place
    | none, [] => .lost 0 place

/-- Reads a set of this kind. -/
def Rules.read (rules : Rules) (bytes : List UInt8) : Option (List Symbol) :=
  readSteps rules.step (fun _ => true) bytes.length {} bytes

/-! ### The sets -/

/-- The Japanese sets that all allow. -/
def common : List Named :=
  [.general, .olderGeneral, .japaneseLatin]

/-- The sets with control sequences. -/
def sets : List CharacterSet :=
  [⟨["hz", "hz_gb", "hz_gb_2312", "hzgb"], fun bytes =>
      readSteps braceStep (fun _ => true) bytes.length false bytes⟩,
    ⟨["iso2022_jp", "csiso2022jp", "iso2022jp", "iso_2022_jp"], Rules.read { named := common }⟩,
    ⟨["iso2022_jp_1", "iso2022jp_1", "iso_2022_jp_1"],
      Rules.read { named := .further :: common }⟩,
    ⟨["iso2022_jp_2", "iso2022jp_2", "iso_2022_jp_2"],
      Rules.read {
        named := [.further, .korean, .chinese, .latin, .greek] ++ common, hasThird := true }⟩,
    ⟨["iso2022_jp_2004", "iso2022jp_2004", "iso_2022_jp_2004"],
      Rules.read { named := [.general, .firstPlane .second, .secondPlane] }⟩,
    ⟨["iso2022_jp_3", "iso2022jp_3", "iso_2022_jp_3"],
      Rules.read { named := [.general, .firstPlane .first, .secondPlane] }⟩,
    ⟨["iso2022_jp_ext", "iso2022jp_ext", "iso_2022_jp_ext"],
      Rules.read { named := [.further, .narrow] ++ common }⟩,
    ⟨["iso2022_kr", "csiso2022kr", "iso2022kr", "iso_2022_kr"],
      Rules.read { named := [.korean], shifts := true, hasRevision := false }⟩]

end BallotWatch.Text.Shifting
