/-
This file says what part of a text cannot be written as bytes.
-/

import BallotWatch.Text.Quoted

namespace BallotWatch.Text

/-- The first run of symbols that cannot be written: the set of characters, the first of the
symbols, where it stands, how many there are, and why. -/
structure Unencodable where
  set : String
  first : Symbol
  position : Nat
  count : Nat
  reason : String
  deriving DecidableEq, Repr

/-- The run in words. -/
def Unencodable.message (run : Unencodable) : String :=
  let what :=
    if run.count ≤ 1 then
      let shown :=
        match run.first with
        | .char c => numbered c
        | .half code => '\\' :: 'u' :: hexNumeral 4 code
      s!"character '{String.ofList shown}' in position {run.position}"
    else s!"characters in position {run.position}-{run.position + run.count - 1}"
  s!"'{run.set}' codec can't encode {what}: {run.reason}"

/-- The first symbol for which the test does not hold: how many stand before it, and it with all
after it. -/
def firstFailing? (test : Symbol → Bool) (text : List Symbol) :
    Option (Nat × Symbol × List Symbol) :=
  match text.dropWhile test with
  | [] => none
  | symbol :: rest => some ((text.takeWhile test).length, symbol, rest)

/-- What cannot be written of a text in the ASCII set, if anything. -/
def notAscii? (text : List Symbol) : Option Unencodable :=
  let isAscii := Symbol.is fun c => decide (c.toNat < 0x80)
  (firstFailing? isAscii text).map fun (position, first, rest) =>
    ⟨"ascii", first, position, 1 + (rest.takeWhile fun symbol => !isAscii symbol).length,
      "ordinal not in range(128)"⟩

end BallotWatch.Text
