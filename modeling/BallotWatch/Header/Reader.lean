/-
This file holds the frame in which the values of mail headers are read.

A reader takes a part from the front of a text and leaves the rest, or it meets an obstacle. A
mismatch says no more than that the text does not have the form looked for, and another form can
be tried on the same text. Every other obstacle ends the reading of the header.
-/

import BallotWatch.Fault
import BallotWatch.Text.ByteHalf

namespace BallotWatch.Header

open Text

/-! ### Obstacles -/

/-- What a reader can meet. -/
inductive Obstacle
  /-- The text has another form. -/
  | mismatch
  /-- The text ends where a part has to begin. -/
  | textEnds
  /-- Nothing is left of a part that has to have something in it. -/
  | nothingLeft
  /-- A display name begins with a period after a blank. -/
  | blankBeforePeriod
  /-- A display name has a period at an end. -/
  | periodAtEnd
  /-- A domain in brackets is not closed. -/
  | openBrackets
  /-- A domain in brackets ends after blanks. -/
  | blankBrackets
  /-- Something follows a group of addresses. -/
  | textAfterGroup
  /-- An address has the end of a line in it. -/
  | lineEnd
  /-- Comments stand in one another too deep to be taken apart. -/
  | tooDeepToRead
  /-- Comments stand in one another too deep to be kept. -/
  | tooDeepToKeep
  /-- The text that was read has halves of surrogate pairs in it. -/
  | unencodable (run : Unencodable)
  deriving DecidableEq, Repr

/-- The fault an obstacle ends in. -/
def Obstacle.fault : Obstacle → Fault
  | mismatch => ⟨.value, "invalid header"⟩
  | textEnds => ⟨.index, "string index out of range"⟩
  | nothingLeft => ⟨.index, "list index out of range"⟩
  | blankBeforePeriod => ⟨.type, "'ValueTerminal' object does not support item assignment"⟩
  | periodAtEnd => ⟨.attribute, "'str' object has no attribute 'token_type'"⟩
  | openBrackets => ⟨.attribute, "'InvalidHeaderDefect' object has no attribute 'all_defects'"⟩
  | blankBrackets =>
    ⟨.unset, "cannot access local variable 'pos' where it is not associated with a value"⟩
  | textAfterGroup => ⟨.attribute, "'Group' object has no attribute 'local_part'"⟩
  | lineEnd => ⟨.value, "invalid arguments; address parts cannot contain CR or LF"⟩
  | tooDeepToRead => ⟨.depth, "maximum recursion depth exceeded while calling a Python object"⟩
  | tooDeepToKeep => ⟨.depth, "maximum recursion depth exceeded"⟩
  | unencodable run => ⟨.encoding, run.message⟩

/-- A text as a header shows it. -/
def shownText (text : List Symbol) : Except Obstacle String :=
  match SymbolText.settled ⟨text⟩ with
  | .ok text => .ok (String.ofList text)
  | .error run => .error (.unencodable run)

/-! ### Readers -/

/-- A reader of parts of one type. -/
abbrev Reader :=
  StateT (List Symbol) (Except Obstacle)

namespace Reader

/-- Tries one form and, where it does not match, another. -/
def or {Part : Type} (first second : Reader Part) : Reader Part := fun text =>
  match first text with
  | .error .mismatch => second text
  | result => result

/-- Whether the text goes on with a symbol for which the test holds. -/
def sees (test : Symbol → Bool) : Reader Bool := fun text =>
  .ok ((text.head?.map test).getD false, text)

/-- Whether the text has come to its end. -/
def atEnd : Reader Bool := fun text =>
  .ok (text.isEmpty, text)

/-- Refuses a text that has come to its end. -/
def demandMore : Reader Unit := fun text =>
  if text.isEmpty then .error .textEnds else .ok ((), text)

/-- Refuses a text unless the condition holds. -/
def ensure (condition : Bool) : Reader Unit :=
  if condition then pure () else throw .mismatch

/-- Passes over one symbol. -/
def skip : Reader Unit := fun text =>
  .ok ((), text.tail)

/-- Takes the longest run of symbols for which the test holds. -/
def takeRun (test : Symbol → Bool) : Reader (List Symbol) := fun text =>
  .ok (text.span test)

/-- Reads parts one after another, at most a number of them, as long as the text goes on with a
symbol for which the test holds. -/
def upTo {Part : Type} (test : Symbol → Bool) (part : Reader Part) : Nat → Reader (List Part)
  | 0 => pure []
  | count + 1 => do
    if ← sees test then
      let first ← part
      return first :: (← upTo test part count)
    else return []

/-- Reads parts one after another as long as the text goes on with a symbol for which the test
holds. Parts that each take something from the text are at most as many as its symbols. -/
def manyWhile {Part : Type} (test : Symbol → Bool) (part : Reader Part) : Reader (List Part) := do
  upTo test part (← get).length

end Reader

end BallotWatch.Header
