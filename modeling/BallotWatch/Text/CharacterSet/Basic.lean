/-
This file describes sets of characters by how they are read from bytes, and their names.

A set is read in steps. A step makes symbols of the bytes in front, or finds that some of them mean
nothing: those of them from the upper half of the bytes then stand for themselves, and a byte of
the lower half that means nothing makes the whole text unreadable.
-/

import BallotWatch.Text.Blank
import BallotWatch.Text.ByteHalf

namespace BallotWatch.Text

/-! ### Reading in steps -/

/-- A step of a reader with states of some type: the symbols read and how many bytes they take, or
how many bytes have no meaning; and the state after it. -/
inductive Step (State : Type)
  | read (symbols : List Symbol) (count : Nat) (state : State)
  | lost (count : Nat) (state : State)

/-- The bytes of a lost run that stand for themselves, of which there are never more than four at
once. -/
def keptBytes (count : Nat) (bytes : List UInt8) : List UInt8 :=
  (bytes.take (min count 4)).takeWhile fun byte => decide (0x80 ≤ byte.toNat)

/-- Reads bytes in steps, at most a number of them, from a state on. The text must not end in a
state in which something is missing. -/
def readSteps {State : Type} (step : State → UInt8 → List UInt8 → Step State)
    (isComplete : State → Bool) : Nat → State → List UInt8 → Option (List Symbol)
  | 0, state, _ | _, state, [] => if isComplete state then some [] else none
  | steps + 1, state, first :: rest =>
    match step state first rest with
    | .read symbols count state =>
      (readSteps step isComplete steps state ((first :: rest).drop count)).map (symbols ++ ·)
    | .lost count state =>
      match keptBytes count (first :: rest) with
      | [] => none
      | kept =>
        (readSteps step isComplete steps state ((first :: rest).drop kept.length)).map
          (kept.map .ofByte ++ ·)

/-- Reads bytes in steps without states. -/
def readPlainSteps (step : UInt8 → List UInt8 → Step Unit) (bytes : List UInt8) :
    Option (List Symbol) :=
  readSteps (fun _ => step) (fun _ => true) bytes.length () bytes

/-- The step that reads characters from a number of bytes. -/
def Step.chars {State : Type} (text : List Char) (count : Nat) (state : State) : Step State :=
  .read (text.map .char) count state

/-- The step that reads a byte of the ASCII set as the character it is. -/
def Step.ascii {State : Type} (byte : UInt8) (state : State) : Step State :=
  .chars [Char.ofNat byte.toNat] 1 state

/-- The step of two bytes, the second of which may be missing, that stand for characters if they
stand for anything. If they do not, the first one has no meaning, and for some pairs neither has. -/
def Step.pair (find? : Nat → Nat → Option (List Char)) (first : UInt8) (rest : List UInt8)
    (isLostWhole : Nat → Nat → Bool := fun _ _ => false) : Step Unit :=
  match rest with
  | [] => .lost 1 ()
  | second :: _ =>
    match find? first.toNat second.toNat with
    | some text => .chars text 2 ()
    | none => .lost (if isLostWhole first.toNat second.toNat then 2 else 1) ()

/-- Reads a set in which bytes of the ASCII set stand for themselves and all others come in
pairs. -/
def readPairs (find? : Nat → Nat → Option (List Char)) : List UInt8 → Option (List Symbol) :=
  readPlainSteps fun first rest =>
    if first.toNat < 0x80 then .ascii first () else .pair find? first rest

/-! ### Sets and their names -/

/-- A set of characters: its names, and what bytes mean in it, if they can be read. -/
structure CharacterSet where
  names : List String
  read : List UInt8 → Option (List Symbol)

/-- A name of a set, with its words put together the same way whatever parted them. -/
def characterSetName (name : List Char) : List Char :=
  let parts := pieces (fun c => !c.isAlphanum && c != '.') (name.map Char.toLower)
  ['_'].intercalate (parts.filter fun part => !part.isEmpty)

/-- Whether a set has a name. A period can part the words of a name too, though not of the first
one. -/
def CharacterSet.hasName (set : CharacterSet) (name : List Char) : Bool :=
  set.names.contains (String.ofList name) ||
    (name.contains '.' &&
      set.names.tail.contains (String.ofList (name.map fun c => if c = '.' then '_' else c)))

end BallotWatch.Text
