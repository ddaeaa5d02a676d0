/-
This file reads Japanese sets in which bytes of the upper half come in pairs.

In one family both bytes of a pair are of the upper half, and two marks stand before the characters
of other grids. In the other family the second byte can be one of the lower half, and a pair of rows
of the grid has one first byte; a single byte can be a narrow letter.
-/

import BallotWatch.Text.CharacterSet.Basic
import BallotWatch.Text.Grid.JisX0208
import BallotWatch.Text.Grid.JisX0212
import BallotWatch.Text.Grid.JisX0213
import BallotWatch.Text.Grid.WindowsJapanese

namespace BallotWatch.Text.Japanese

/-! ### Characters -/

/-- The edition of a standard. -/
inductive Edition
  | first
  | second
  deriving DecidableEq, Repr

/-- A character as a text. -/
def single? (c? : Option Char) : Option (List Char) :=
  c?.map fun c => [c]

/-- A narrow letter by its byte in the upper half. -/
def narrow? (byte : Nat) : Option Char :=
  if 0xa1 ≤ byte ∧ byte ≤ 0xdf then some (Char.ofNat (0xfec0 + byte)) else none

/-- A Latin letter of the Japanese variant, which has the sign of the yen and a line in places of
its own. -/
def latin? (byte : Nat) : Option Char :=
  if byte = 0x5c then some '¥'
  else if byte = 0x7e then some '‾'
  else if byte < 0x80 then some (Char.ofNat byte)
  else none

/-- Whether a cell of the first plane of the wide standard has a character in a later edition
only. -/
def isLater (edition : Edition) (row cell : Nat) : Bool :=
  edition == .first && Grid.jisX0213Later.contains (row, cell)

/-- The text in a cell of the first plane. -/
def firstPlane? (edition : Edition) (row cell : Nat) : Option (List Char) :=
  if isLater edition row cell then none
  else
    single? (Grid.jisX0208.char? row cell) <|> single? (Grid.jisX0213First.char? row cell) <|>
      (Grid.jisX0213Pairs.lookup (row, cell)).map String.toList

/-- The text in a cell of its second plane, where one character has another form in the first
edition. -/
def secondPlane? (edition : Edition) (row cell : Nat) : Option (List Char) :=
  if edition = .first ∧ row = 0x7d ∧ cell = 0x3b then some ['\u9b1d']
  else single? (Grid.jisX0213Second.char? row cell)

/-! ### Pairs of the upper half -/

/-- The row or cell of a byte of the upper half. -/
def lowered (byte : Nat) : Nat :=
  byte - 0x80

/-- The mark before a narrow letter. -/
def narrowMark : UInt8 :=
  0x8e

/-- The mark before a pair of another grid. -/
def otherMark : UInt8 :=
  0x8f

/-- A step of reading pairs of the upper half from two grids. Some pairs of the first one may be
lost as a whole. -/
def upperStep (find? other? : Nat → Nat → Option (List Char)) (isLostWhole : Nat → Nat → Bool)
    (first : UInt8) (rest : List UInt8) : Step Unit :=
  let inGrid (grid? : Nat → Nat → Option (List Char)) (row cell : Nat) : Option (List Char) :=
    if row < 0x80 ∨ cell < 0x80 then none else grid? (lowered row) (lowered cell)
  if first.toNat < 0x80 then .ascii first ()
  else if first = narrowMark then .pair (fun _ second => single? (narrow? second)) first rest
  else if first = otherMark then
    match rest with
    | row :: cell :: _ =>
      match inGrid other? row.toNat cell.toNat with
      | some text => .chars text 3 ()
      | none => .lost 1 ()
    | rest => .lost (1 + rest.length) ()
  else .pair (inGrid find?) first rest fun row cell => isLostWhole (lowered row) (lowered cell)

/-- The pairs of the wide standard, in which a wave stands in a cell of the first plane. -/
def upperFirstPlane? (edition : Edition) (row cell : Nat) : Option (List Char) :=
  if row = 0x22 ∧ cell = 0x32 then some ['\uff5e'] else firstPlane? edition row cell

/-- The pairs behind the mark: those of the second plane and, where there is none, those of the
further characters. -/
def upperSecondPlane? (edition : Edition) (row cell : Nat) : Option (List Char) :=
  secondPlane? edition row cell <|> single? (Grid.jisX0212.char? row cell)

/-- Reads pairs of the upper half from the grids of general use. -/
def readUpper : List UInt8 → Option (List Symbol) :=
  readPlainSteps <| upperStep (fun row cell => single? (Grid.jisX0208.char? row cell))
    (fun row cell => single? (Grid.jisX0212.char? row cell)) fun _ _ => false

/-- Reads pairs of the upper half from the planes of an edition. -/
def readUpperPlanes (edition : Edition) : List UInt8 → Option (List Symbol) :=
  readPlainSteps <| upperStep (upperFirstPlane? edition) (upperSecondPlane? edition)
    (isLater edition)

/-! ### Pairs with two rows to a byte -/

/-- The half row and the cell of a pair, both counted from zero, if the second byte can be one. -/
def place? (first second : Nat) : Option (Nat × Nat) :=
  if second < 0x40 ∨ second = 0x7f ∨ 0xfc < second then none
  else
    let half := if first < 0xe0 then first - 0x81 else first - 0xc1
    let place := if second < 0x80 then second - 0x40 else second - 0x41
    some (if place < 94 then (2 * half, place) else (2 * half + 1, place - 94))

/-- The byte of the first row and the first cell. -/
def firstPlace : Nat :=
  0x21

/-- The text of a pair in a grid. -/
def paired? (find? : Nat → Nat → Option (List Char)) (first second : Nat) : Option (List Char) :=
  (place? first second).bind fun (row, cell) => find? (row + firstPlace) (cell + firstPlace)

/-- The byte of a row of the second plane: its rows are kept behind those of the first, the lowest
ones in an order of their own. -/
def secondPlaneRow (row : Nat) : Nat :=
  if 0x67 ≤ row then row + 0x07
  else if 0x63 ≤ row ∨ row = 0x5f then row - 0x37
  else row - 0x3d

/-- The text of a pair in the planes of the wide standard, in which the wide backslash is a plain
one. -/
def pairedPlanes? (edition : Edition) (first second : Nat) : Option (List Char) :=
  (place? first second).bind fun (row, cell) =>
    if row = 0 ∧ cell = 31 then some ['\\']
    else if row < 94 then firstPlane? edition (row + firstPlace) (cell + firstPlace)
    else secondPlane? edition (secondPlaneRow row) (cell + firstPlace)

/-- Whether a byte can be the first of a pair. -/
def isFirst (byte : Nat) : Bool :=
  decide ((0x81 ≤ byte ∧ byte ≤ 0x9f) ∨ (0xe0 ≤ byte ∧ byte ≤ 0xfc))

/-- Whether a pair stands for a cell of the first plane that has a character in a later edition
only. -/
def isLaterPair (edition : Edition) (first second : Nat) : Bool :=
  (place? first second).any fun (row, cell) =>
    isLater edition (row + firstPlace) (cell + firstPlace)

/-- A step of reading pairs with two rows to a byte among single letters. Some pairs may be lost as
a whole. -/
def mixedStep (letter? : Nat → Option Char) (find? : Nat → Nat → Option (List Char))
    (isLostWhole : Nat → Nat → Bool) (first : UInt8) (rest : List UInt8) : Step Unit :=
  match letter? first.toNat with
  | some c => .chars [c] 1 ()
  | none => if isFirst first.toNat then .pair find? first rest isLostWhole else .lost 1 ()

/-- Reads such pairs from the grid of general use, among ASCII and narrow letters. -/
def readMixed : List UInt8 → Option (List Symbol) :=
  readPlainSteps <| mixedStep
    (fun byte => if byte < 0x80 then some (Char.ofNat byte) else narrow? byte)
    (paired? fun row cell => single? (Grid.jisX0208.char? row cell)) fun _ _ => false

/-- Reads such pairs from the planes of an edition, among letters of the Japanese variant and narrow
ones. -/
def readMixedPlanes (edition : Edition) : List UInt8 → Option (List Symbol) :=
  readPlainSteps <| mixedStep (fun byte => latin? byte <|> narrow? byte) (pairedPlanes? edition)
    (isLaterPair edition)

/-! ### The Windows page -/

/-- A single letter of the Windows page, which has five more bytes that are private. -/
def windowsLetter? (byte : Nat) : Option Char :=
  if byte ≤ 0x80 then some (Char.ofNat byte)
  else if byte = 0xa0 then some '\uf8f0'
  else if 0xfd ≤ byte then some (Char.ofNat (0xf8f1 + (byte - 0xfd)))
  else narrow? byte

/-- The text of a pair of the Windows page, which has its own characters, those of general use, and
private ones. -/
def windowsPair? (first second : Nat) : Option (List Char) :=
  let inGrid? (row cell : Nat) := single? (Grid.jisX0208.char? row cell)
  let general? := if first ≤ 0xea then paired? inGrid? first second else none
  let private? :=
    if 0xf0 ≤ first ∧ first ≤ 0xf9 ∧ 0x40 ≤ second ∧ second ≠ 0x7f ∧ second ≤ 0xfc then
      let place := if second < 0x80 then second - 0x40 else second - 0x41
      some [Char.ofNat (0xe000 + 188 * (first - 0xf0) + place)]
    else none
  single? (Grid.cp932More.char? first second) <|> general? <|> private?

/-- A step of reading the Windows page. -/
def windowsStep (first : UInt8) (rest : List UInt8) : Step Unit :=
  match windowsLetter? first.toNat with
  | some c => .chars [c] 1 ()
  | none => .pair windowsPair? first rest

/-! ### The sets -/

/-- The Japanese sets of pairs. -/
def sets : List CharacterSet :=
  [⟨["euc_jp", "eucjp", "u_jis", "ujis"], readUpper⟩,
    ⟨["euc_jis_2004", "euc_jis2004", "eucjis2004", "jisx0213"], readUpperPlanes .second⟩,
    ⟨["euc_jisx0213", "eucjisx0213"], readUpperPlanes .first⟩,
    ⟨["shift_jis", "csshiftjis", "s_jis", "shiftjis", "sjis", "x_mac_japanese"], readMixed⟩,
    ⟨["shift_jis_2004", "s_jis_2004", "shiftjis2004", "sjis_2004"], readMixedPlanes .second⟩,
    ⟨["shift_jisx0213", "s_jisx0213", "shiftjisx0213", "sjisx0213"], readMixedPlanes .first⟩,
    ⟨["cp932", "932", "ms932", "ms_kanji", "mskanji"], readPlainSteps windowsStep⟩]

end BallotWatch.Text.Japanese
