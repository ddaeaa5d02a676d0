/-
This file reads mailboxes in mail headers.

A mailbox is a local part with or without a domain after an at sign, alone or in angle brackets
behind a display name. Old forms are read as well: words and periods in any order for a local
part, gaps around the periods of a domain, and a route before the local part in brackets.
-/

import BallotWatch.Header.Word

namespace BallotWatch.Header

open Text

/-! ### Local parts -/

/-- A part of a local part of the old form. -/
inductive LocalPiece
  | word (word : Word)
  | period
  | backslash
  | gap
  deriving DecidableEq, Repr

/-- A local part: a single core, or pieces of the old form. -/
inductive LocalPart
  | single (core : Core)
  | pieces (pieces : List LocalPiece)
  deriving DecidableEq, Repr

/-- The text of pieces, none of which is a gap, at a place after a period or elsewhere. Beside a
period and at both ends a word has no gap. -/
def localPiecesShown (afterPeriod : Bool) : List LocalPiece → List Symbol
  | [] => []
  | .word text :: rest =>
    let atPeriod :=
      match rest with
      | [] | .period :: _ => true
      | _ => false
    let before := if afterPeriod then [] else text.before
    let after := if atPeriod then [] else text.after
    Word.shown { text with before, after } ++ localPiecesShown false rest
  | .period :: rest => .char '.' :: localPiecesShown true rest
  | .backslash :: rest => .char '\\' :: localPiecesShown false rest
  | .gap :: rest => localPiecesShown afterPeriod rest

/-- The text of a local part. A core with nothing in it has none. -/
def LocalPart.shown : LocalPart → Except Obstacle (List Symbol)
  | single core => if core.isHollow then .error .nothingLeft else .ok core.shown
  | pieces parts => .ok (localPiecesShown true (parts.filter (· != .gap)))

/-- Whether a local part of the old form goes on with a symbol. -/
def continuesLocalPart (symbol : Symbol) : Bool :=
  symbol == .char '\\' || !endsPhrase symbol

/-- A reader of a piece of a local part of the old form. -/
def localPiece : Reader LocalPiece := do
  if ← Reader.sees (· == .char '.') then
    Reader.skip
    return .period
  else if ← Reader.sees (· == .char '\\') then
    Reader.skip
    return .backslash
  else (LocalPiece.word <$> word).or ((fun _ => .gap) <$> someGap)

/-- A reader of local parts of the old form. They have to have more than a gap. -/
def localPieces : Reader LocalPart := do
  match ← Reader.manyWhile continuesLocalPart localPiece with
  | [] | [.gap] => throw .nothingLeft
  | parts => return .pieces parts

/-- A reader of atoms parted by single periods. -/
def periodAtoms : Reader (List Symbol) := do
  let parts ← Reader.manyWhile (fun symbol => !endsAtom symbol) do
    let text ← atomText
    if ← Reader.sees (· == .char '.') then
      Reader.skip
      return text ++ [.char '.']
    else return text
  let text := parts.flatten
  Reader.ensure (!text.isEmpty && text.getLast? != some (.char '.'))
  return text

/-- A reader of a word of atoms and periods that stands behind its gap. -/
def periodWord : Reader Word := do
  let core ← encodedOr periodAtoms
  return { core, after := ← gap }

/-- A reader of local parts. If a text goes on behind a first word, it has the old form and is
read from its beginning, with encoded words as they have been read. -/
def localPart : Reader LocalPart := do
  Reader.demandMore
  let before ← gap
  Reader.ensure (!(← Reader.atEnd))
  let goesOn ← Reader.sees continuesLocalPart
  let first? ← (some <$> periodWord).or ((some <$> word).or (do
    Reader.ensure goesOn
    return none))
  if ← Reader.sees continuesLocalPart then
    modify fun rest => before ++ (first?.map Word.written).getD [] ++ rest
    localPieces
  else
    match first? with
    | some first => return .single first.core
    | none => return .pieces []

/-! ### Domains -/

/-- A domain, and whether it is one in brackets that is not closed. -/
structure Domain where
  text : List Symbol
  isOpen : Bool := false
  deriving DecidableEq, Repr

/-- Passes over blanks that begin with a space. -/
def skipBlanks : Reader Unit := do
  if ← Reader.sees isSpace then discard blanks

/-- Whether a symbol opens or closes a domain in brackets. -/
def isBracket (symbol : Symbol) : Bool :=
  symbol.is ['[', ']'].contains

/-- A reader of domains in brackets. -/
def bracketDomain : Reader Domain := do
  Reader.skip
  if ← Reader.atEnd then return ⟨[], true⟩
  skipBlanks
  if ← Reader.atEnd then throw .blankBrackets
  let text ← fun text => .ok (literal isBracket text)
  skipBlanks
  if ← Reader.atEnd then return ⟨text, true⟩
  Reader.ensure (← Reader.sees (· == .char ']'))
  Reader.skip
  discard gap
  return ⟨[.char '['] ++ text ++ [.char ']'], false⟩

/-- A reader of domains without brackets. An at sign may not follow at once. -/
def plainDomain : Reader Domain := do
  let first ← periodWord.or atom
  Reader.ensure (!(← Reader.sees (· == .char '@')))
  let others ← Reader.manyWhile (· == .char '.') do
    Reader.skip
    return [.char '.'] ++ (← atom).core.shown
  return ⟨first.core.shown ++ others.flatten, false⟩

/-- A reader of domains. There are no blanks in one. -/
def domain : Reader Domain := do
  Reader.demandMore
  discard gap
  Reader.ensure (!(← Reader.atEnd))
  let found ← if ← Reader.sees (· == .char '[') then bracketDomain else plainDomain
  return { found with text := found.text.filter fun symbol => !isAnyBlank symbol }

/-! ### Mailboxes -/

/-- Where mail goes: a local part and the domain after it. -/
structure Target where
  localPart : LocalPart
  domain? : Option Domain
  deriving DecidableEq, Repr

/-- A mailbox: a display name and a target, each of which can be missing. -/
structure Mailbox where
  name? : Option (List PhrasePart) := none
  target? : Option Target := none
  deriving DecidableEq, Repr

/-- Passes over an at sign and reads the domain behind it. -/
def domainAfterAt : Reader Domain := do
  Reader.skip
  domain

/-- Whether a symbol is an at sign. -/
def isAt (symbol : Symbol) : Bool :=
  symbol == .char '@'

/-- A reader of targets. -/
def target : Reader Target := do
  let localPart ← localPart
  if ← Reader.sees isAt then
    return ⟨localPart, some (← domainAfterAt)⟩
  else return ⟨localPart, none⟩

/-- Whether a symbol is a comma. -/
def isComma (symbol : Symbol) : Bool :=
  symbol == .char ','

/-- Passes over a route: domains between commas, closed by a colon. -/
def skipRoute : Reader Unit := do
  discard (Reader.manyWhile (fun symbol => isComma symbol || opensGap symbol) do
    if ← Reader.sees isComma then Reader.skip else discard gap)
  Reader.ensure (← Reader.sees isAt)
  discard domainAfterAt
  discard (Reader.manyWhile isComma do
    Reader.skip
    if ← Reader.atEnd then return
    discard gap
    Reader.demandMore
    if ← Reader.sees isAt then discard domainAfterAt)
  Reader.ensure (← Reader.sees (· == .char ':'))
  Reader.skip

/-- A reader of targets in angle brackets, which can be empty. The closing bracket can be
missing. -/
def angleTarget : Reader (Option Target) := do
  Reader.demandMore
  discard gap
  Reader.ensure (← Reader.sees (· == .char '<'))
  Reader.skip
  Reader.demandMore
  if ← Reader.sees (· == .char '>') then
    Reader.skip
    return none
  else
    let found ← target.or (do skipRoute; target)
    if ← Reader.sees (· == .char '>') then Reader.skip
    discard gap
    return some found

/-- A reader of mailboxes in angle brackets. -/
def namedMailbox : Reader Mailbox := do
  let before ← gap
  Reader.ensure (!(← Reader.atEnd))
  if ← Reader.sees (· == .char '<') then
    return ⟨none, ← angleTarget⟩
  else
    Reader.ensure (!(← Reader.sees endsPhrase))
    let name ← phrase
    Reader.ensure (!(← Reader.atEnd))
    if !before.isEmpty && name.head? == some .period then throw .blankBeforePeriod
    return ⟨some name, ← angleTarget⟩

/-- A reader of mailboxes. A domain in brackets has to be closed. -/
def mailbox : Reader Mailbox := do
  let found ← namedMailbox.or ((fun target => ⟨none, some target⟩) <$> target)
  match found.target?.bind Target.domain? with
  | some ⟨_, true⟩ => throw .openBrackets
  | _ => return found

/-! ### What a mailbox shows -/

/-- A text, in quotation marks if it has a symbol for which the test holds. -/
def quotedIfNeeded (needsQuotes : Symbol → Bool) (text : List Symbol) : List Symbol :=
  if text.any needsQuotes then inQuotes text else text

/-- A mailbox as it is written, given the texts of its display name, its local part and its
domain. Angle brackets stand behind a name and around nothing at all. -/
def mailboxText (name user host : List Symbol) : List Symbol :=
  let target :=
    quotedIfNeeded (fun symbol => endsAtom symbol && symbol != .char '.') user ++
      if host.isEmpty then [] else .char '@' :: host
  let brackets := [.char '<'] ++ target ++ [.char '>']
  if name.isEmpty then if target.isEmpty then brackets else target
  else quotedIfNeeded isSpecial name ++ [.char ' '] ++ brackets

/-- The text of a mailbox. No part of it may have the end of a line in it. -/
def Mailbox.shown (mailbox : Mailbox) : Except Obstacle (List Symbol) := do
  let name ← phraseShown (mailbox.name?.getD [])
  let user ← (mailbox.target?.map (LocalPart.shown ·.localPart)).getD (.ok [])
  let host := ((mailbox.target?.bind Target.domain?).map Domain.text).getD []
  if (name ++ user ++ host).any (Symbol.is ['\r', '\n'].contains) then throw .lineEnd
  return mailboxText name user host

end BallotWatch.Header
