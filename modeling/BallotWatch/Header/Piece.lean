/-
This file joins the pieces of a text that can have encoded words in it, and reads headers that
are nothing but such a text.

Blanks between two encoded words only part them and do not belong to the text; all other blanks
do. In a header without any structure a word that stands among other characters is told by its
form, and what stands before its mark is then a piece of its own.
-/

import BallotWatch.Header.EncodedWord
import BallotWatch.Text.Blank

namespace BallotWatch.Header

open Text

/-! ### Characters with a meaning -/

/-- Spaces and tabs, which part the words of a header. -/
def isSpace : Symbol → Bool :=
  Symbol.is fun c => c == ' ' || c == '\t'

/-- A blank of any kind. A space that parts two words takes all blanks behind it along. -/
def isAnyBlank : Symbol → Bool :=
  Symbol.is isBlank

/-! ### Pieces -/

/-- A piece of a text. -/
inductive Piece
  | blanks (text : List Symbol)
  | encoded (text : List Symbol)
  | plain (text : List Symbol)
  deriving DecidableEq, Repr

/-- Whether a list of pieces begins with an encoded word. -/
def startsEncoded : List Piece → Bool
  | .encoded _ :: _ => true
  | _ => false

/-- The text of pieces. -/
def joined : List Piece → List Symbol
  | [] => []
  | .encoded text :: .blanks between :: rest =>
    text ++ (if startsEncoded rest then [] else between) ++ joined rest
  | .encoded text :: rest => text ++ joined rest
  | .blanks text :: rest => text ++ joined rest
  | .plain text :: rest => text ++ joined rest

/-- A reader of blanks after a space. -/
def blanks : Reader Piece := do
  return .blanks (← Reader.takeRun isAnyBlank)

/-- A reader of encoded words as pieces. -/
def encoded : Reader Piece := do
  return .encoded (← EncodedWord.reader)

/-! ### Headers without structure -/

/-- A reader of plain text up to a space or to the mark of an encoded word in it. Where a text
begins with the mark of a word that cannot be read, it goes on up to the space. -/
def plainText : Reader Piece := fun text =>
  let (run, rest) := text.span fun symbol => !isSpace symbol
  match EncodedWord.cutAt '=' '?' text with
  | some (before, _) =>
    if EncodedWord.occursIn run && !before.isEmpty then
      .ok (.plain before, text.drop before.length)
    else .ok (.plain run, rest)
  | none => .ok (.plain run, rest)

/-- A reader of one piece of a header without structure. -/
def unstructuredPiece : Reader Piece := do
  if ← Reader.sees isSpace then blanks
  else encoded.or plainText

/-- The text that a header without structure shows. -/
def unstructured (value : String) : Except Obstacle String := do
  let (pieces, _) ←
    Reader.manyWhile (fun _ => true) unstructuredPiece (SymbolText.ofString value).symbols
  shownText (joined pieces)

end BallotWatch.Header
