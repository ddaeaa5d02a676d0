/-
This file reads lists of addresses in mail headers.

An address is a mailbox or a group of mailboxes with a name. What cannot be read is passed over
up to the next comma and counts as a mailbox without any parts. A text that follows a mailbox is
passed over too, but a group that a text follows cannot be shown. Places of a list can be empty.
-/

import BallotWatch.Header.Mailbox

namespace BallotWatch.Header

open Text

/-! ### Lists -/

/-- Passes over a text that cannot be read, up to a symbol that ends an element of a list. -/
def skipElement (ends : Symbol → Bool) : Reader Unit :=
  discard (Reader.manyWhile (fun symbol => !ends symbol) do
    if ← Reader.sees endsPhrase then Reader.skip else discard phrase)

/-- A reader of an element of a list and the comma after it. Another element stands in for one
that cannot be read, an empty place has none, and a text that follows an element changes it. -/
def listElement {Part : Type} (ends : Symbol → Bool) (element : Reader Part) (standIn : Part)
    (followed : Part → Part) : Reader (Option Part) := do
  let found? ← (some <$> element).or (do
    discard gap
    if ← Reader.atEnd then return none
    if ← Reader.sees ends then return none
    skipElement ends
    return some standIn)
  let ended := (← Reader.atEnd) || (← Reader.sees ends)
  if !ended then skipElement ends
  if ← Reader.sees isComma then Reader.skip
  return if ended then found? else found?.map followed

/-- Whether a symbol ends a mailbox in a group. -/
def endsMember (symbol : Symbol) : Bool :=
  symbol.is [',', ';'].contains

/-- Whether a symbol is a semicolon. -/
def isSemicolon (symbol : Symbol) : Bool :=
  symbol == .char ';'

/-- A reader of the members of a group up to the semicolon that closes it. -/
def members : Reader (List Mailbox) := do
  let found ← Reader.manyWhile (fun symbol => !isSemicolon symbol)
    (listElement endsMember mailbox {} id)
  return found.filterMap id

/-- An address of a list. A group has a name and members; a text that follows it spoils it. -/
inductive Address
  | mailbox (mailbox : Mailbox)
  | group (name : List PhrasePart) (members : List Mailbox) (spoiled : Bool)
  deriving DecidableEq, Repr

/-- An address that something follows. -/
def Address.followed : Address → Address
  | mailbox found => mailbox found
  | group name members _ => group name members true

/-- A reader of groups. -/
def group : Reader Address := do
  let name ← phrase
  Reader.ensure (← Reader.sees (· == .char ':'))
  Reader.skip
  if ← Reader.sees isSemicolon then
    Reader.skip
    return .group name [] false
  else
    discard gap
    let found ← members
    Reader.skip
    discard gap
    return .group name found false

/-- A reader of addresses. -/
def address : Reader Address :=
  group.or (Address.mailbox <$> mailbox)

/-- The addresses of a whole text. -/
def addresses (text : List Symbol) : Except Obstacle (List Address) := do
  let (found, _) ← Reader.manyWhile (fun _ => true)
    (listElement isComma address (.mailbox {}) Address.followed) text
  return found.filterMap id

/-! ### What addresses show -/

/-- Texts with a comma between each two. -/
def withCommas (texts : List (List Symbol)) : List Symbol :=
  [.char ',', .char ' '].intercalate texts

/-- The text of an address. -/
def Address.shown : Address → Except Obstacle (List Symbol)
  | mailbox found => found.shown
  | group name members spoiled => do
    let name ← phraseShown name
    if spoiled then throw .textAfterGroup
    let list := withCommas (← members.mapM Mailbox.shown)
    return quotedIfNeeded isSpecial name ++ [.char ':'] ++
      (if list.isEmpty then [] else .char ' ' :: list) ++ [.char ';']

/-- Whether a text is nothing but a comment that is too deep to be kept alone. -/
def isDeepCommentAlone : List Symbol → Bool
  | .char '(' :: rest =>
    decide (unkeepableAloneDepth ≤ commentDepth 1 rest) && (comment 0 rest).2.isEmpty
  | _ => false

/-- The text that a header with a list of addresses shows. -/
def addressList (value : String) : Except Obstacle String := do
  let text := (SymbolText.ofString value).symbols
  let found ← addresses text
  if isDeepCommentAlone text then throw .tooDeepToKeep
  shownText (withCommas (← found.mapM Address.shown))

end BallotWatch.Header
