/-
This file reads the words of structured mail headers and the phrases made of them.

A word is an atom, an encoded word or a quoted string, with a gap of blanks and comments on
either side. A phrase is a run of words, in which periods and gaps can also stand alone. In the
text of a word a gap counts as one space, and so do blanks in an encoded word.
-/

import BallotWatch.Header.Piece

namespace BallotWatch.Header

open Text

/-! ### Characters with a meaning -/

/-- Characters that structure a header. -/
def specials : List Char :=
  "()<>@,:;.\\\"[]".toList

/-- Whether a symbol structures a header. -/
def isSpecial : Symbol → Bool :=
  Symbol.is specials.contains

/-- Whether an atom ends before a symbol. -/
def endsAtom (symbol : Symbol) : Bool :=
  isSpecial symbol || isSpace symbol

/-- Whether a phrase ends before a symbol. A period, a quotation mark and the opening of a
comment can go on with one. -/
def endsPhrase (symbol : Symbol) : Bool :=
  isSpecial symbol && !symbol.is ['.', '"', '('].contains

/-- Whether a symbol opens a gap. -/
def opensGap (symbol : Symbol) : Bool :=
  isSpace symbol || symbol == .char '('

/-! ### Gaps -/

/-- A comment from behind its opening and what follows it; comments can stand in comments. A
backslash takes the meaning from the next character, unless that is a space. -/
def comment (inside : Nat) : List Symbol → List Symbol × List Symbol
  | [] => ([], [])
  | .char '\\' :: next :: rest =>
    if isSpace next then
      let (taken, rest) := comment inside (next :: rest)
      (.char '\\' :: taken, rest)
    else
      let (taken, rest) := comment inside rest
      (.char '\\' :: next :: taken, rest)
  | .char ')' :: rest =>
    match inside with
    | 0 => ([.char ')'], rest)
    | outer + 1 =>
      let (taken, rest) := comment outer rest
      (.char ')' :: taken, rest)
  | symbol :: rest =>
    let (taken, rest) := comment (if symbol = .char '(' then inside + 1 else inside) rest
    (symbol :: taken, rest)

/-- How many comments stand in one another at most in a comment, from behind its opening. -/
def commentDepth (inside : Nat) : List Symbol → Nat
  | [] => inside
  | .char '\\' :: next :: rest =>
    if isSpace next then commentDepth inside (next :: rest) else commentDepth inside rest
  | .char ')' :: rest =>
    match inside with
    | 0 | 1 => inside
    | outer + 1 => max inside (commentDepth outer rest)
  | symbol :: rest => commentDepth (if symbol = .char '(' then inside + 1 else inside) rest

/-- The depth from which on comments cannot be taken apart. -/
def unreadableDepth : Nat :=
  972

/-- The depth from which on comments cannot be kept beside an address. -/
def unkeepableDepth : Nat :=
  485

/-- The depth from which on comments cannot be kept where nothing else is. -/
def unkeepableAloneDepth : Nat :=
  244

/-- A reader of a comment or a run of blanks. -/
def gapPart : Reader (List Symbol) := fun text =>
  match text with
  | .char '(' :: rest =>
    let depth := commentDepth 1 rest
    if unreadableDepth ≤ depth then .error .tooDeepToRead
    else if unkeepableDepth ≤ depth then .error .tooDeepToKeep
    else
      let (taken, rest) := comment 0 rest
      .ok (.char '(' :: taken, rest)
  | text => .ok (text.span isAnyBlank)

/-- A reader of a gap, which can be empty. -/
def gap : Reader (List Symbol) := do
  return (← Reader.manyWhile opensGap gapPart).flatten

/-! ### Words -/

/-- What stands between the gaps of a word. A quoted string has no content if the text ends
behind its opening. -/
inductive Core
  | atom (text : List Symbol)
  | encoded (text : List Symbol)
  | quoted (content? : Option (List Symbol))
  deriving DecidableEq, Repr

/-- A text in which a space stands for every run of blanks that begins with one. -/
def spaced (text : List Symbol) : List Symbol :=
  (text.foldl (fun (inBlanks, shown) symbol =>
    if isSpace symbol && !inBlanks then (true, .char ' ' :: shown)
    else if inBlanks && isAnyBlank symbol then (true, shown)
    else (false, symbol :: shown)) (false, ([] : List Symbol))).2.reverse

/-- The text of a core. -/
def Core.shown : Core → List Symbol
  | atom text => text
  | encoded text => spaced text
  | quoted content? => content?.getD []

/-- A text in quotation marks, with a backslash before every backslash and quotation mark. -/
def inQuotes (text : List Symbol) : List Symbol :=
  let escaped := text.flatMap fun symbol =>
    if symbol.is ['\\', '"'].contains then [.char '\\', symbol] else [symbol]
  .char '"' :: escaped ++ [.char '"']

/-- A core as it is written once its encoded words have been read. -/
def Core.written : Core → List Symbol
  | atom text => text
  | encoded text => text
  | quoted content? => inQuotes (content?.getD [])

/-- Whether there is nothing in a core. -/
def Core.isHollow : Core → Bool
  | atom _ => false
  | encoded text => text.isEmpty
  | quoted content? => content?.isNone

/-- A word and the gaps on its sides, each empty if there is none. -/
structure Word where
  before : List Symbol := []
  core : Core
  after : List Symbol := []
  deriving DecidableEq, Repr

/-- The space that stands for a gap. -/
def gapShown (gap : List Symbol) : List Symbol :=
  if gap.isEmpty then [] else [.char ' ']

/-- The text of a word. -/
def Word.shown (word : Word) : List Symbol :=
  gapShown word.before ++ word.core.shown ++ gapShown word.after

/-- A word as it is written once its encoded words have been read. -/
def Word.written (word : Word) : List Symbol :=
  word.before ++ word.core.written ++ word.after

/-- A reader of the text of an atom. -/
def atomText : Reader (List Symbol) := do
  let text ← Reader.takeRun fun symbol => !endsAtom symbol
  Reader.ensure (!text.isEmpty)
  return text

/-- A reader of an encoded word or, where none stands, of a text of another form. -/
def encodedOr (text : Reader (List Symbol)) : Reader Core :=
  (Core.encoded <$> EncodedWord.reader).or (Core.atom <$> text)

/-- A reader of atoms. -/
def atom : Reader Word := do
  let before ← gap
  let core ← encodedOr atomText
  return { before, core, after := ← gap }

/-- The text up to a space or to a closing symbol, and what follows. A backslash takes the
meaning from the next character and is left out itself. -/
def literal (closes : Symbol → Bool) : List Symbol → List Symbol × List Symbol
  | [] => ([], [])
  | [.char '\\'] => ([], [])
  | .char '\\' :: next :: rest =>
    if isSpace next then ([], next :: rest)
    else
      let (text, rest) := literal closes rest
      (next :: text, rest)
  | symbol :: rest =>
    if isSpace symbol || closes symbol then ([], symbol :: rest)
    else
      let (text, rest) := literal closes rest
      (symbol :: text, rest)

/-- Whether a symbol is a quotation mark. -/
def isQuotationMark (symbol : Symbol) : Bool :=
  symbol == .char '"'

/-- A reader of one piece of a quoted string. -/
def quotedPiece : Reader Piece := do
  if ← Reader.sees isSpace then blanks
  else encoded.or fun text =>
    let (text, rest) := literal isQuotationMark text
    .ok (.plain text, rest)

/-- A reader of a quoted string from its opening on. -/
def quotedString : Reader Core := do
  Reader.skip
  if ← Reader.atEnd then return .quoted none
  else
    let pieces ← Reader.manyWhile (fun symbol => !isQuotationMark symbol) quotedPiece
    Reader.skip
    return .quoted (some (joined pieces))

/-- A reader of words. -/
def word : Reader Word := do
  Reader.demandMore
  let before ← gap
  if ← Reader.sees isQuotationMark then
    let core ← quotedString
    return { before, core, after := ← gap }
  else
    let core ← encodedOr atomText
    return { before, core, after := ← gap }

/-! ### Phrases -/

/-- A part of a phrase. -/
inductive PhrasePart
  | word (word : Word)
  | period
  | gap (text : List Symbol)
  deriving DecidableEq, Repr

/-- The text of a part. -/
def PhrasePart.shown : PhrasePart → List Symbol
  | word text => text.shown
  | period => [.char '.']
  | gap text => gapShown text

/-- A reader of a gap that must not be empty. -/
def someGap : Reader (List Symbol) := do
  let text ← gap
  Reader.ensure (!text.isEmpty)
  return text

/-- A reader of a part of a phrase. -/
def phrasePart : Reader PhrasePart := do
  if ← Reader.sees (· == .char '.') then
    Reader.skip
    return .period
  else (PhrasePart.word <$> word).or (PhrasePart.gap <$> someGap)

/-- A reader of phrases. -/
def phrase : Reader (List PhrasePart) := do
  let first ← ((fun text => [.word text]) <$> word).or (pure [])
  let others ← Reader.manyWhile (fun symbol => !endsPhrase symbol) phrasePart
  return first ++ others

/-- A part without a gap at its beginning, and nothing at all if it is one. -/
def PhrasePart.withoutGapBefore : PhrasePart → Except Obstacle (List PhrasePart)
  | gap _ => .ok []
  | period => .error .periodAtEnd
  | word text => .ok [word { text with before := [] }]

/-- A part without a gap at its end, and nothing at all if it is one. -/
def PhrasePart.withoutGapAfter : PhrasePart → Except Obstacle (List PhrasePart)
  | gap _ => .ok []
  | period => .error .periodAtEnd
  | word text => .ok [word { text with after := [] }]

/-- The text of a phrase without gaps at its ends, where no period may stand either. A phrase
may be empty but may not be made of one gap. -/
def phraseShown : List PhrasePart → Except Obstacle (List Symbol)
  | [] => .ok []
  | first :: others => do
    let parts := (← first.withoutGapBefore) ++ others
    match parts.getLast? with
    | none => .error .nothingLeft
    | some last => return ((parts.dropLast ++ (← last.withoutGapAfter)).flatMap PhrasePart.shown)

end BallotWatch.Header
