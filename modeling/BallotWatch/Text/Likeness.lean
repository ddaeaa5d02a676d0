/-
This file measures how alike two texts are, and picks out of some candidates those that are
most like a text.

The measure counts characters that agree in order. The longest run that the texts share is
counted first, and then what the parts before it share and what the parts after it share. Two
texts are alike when the characters counted, once for each text, make up three fifths of both.
-/

namespace BallotWatch.Text.Likeness

/-! ### Shared runs -/

/-- A run of characters that two texts share: where it begins in each, and how long it is. -/
structure Run where
  first : Nat := 0
  second : Nat := 0
  size : Nat := 0
  deriving DecidableEq, Repr

/-- How many characters two texts have in common at their beginnings. -/
def commonStart : List Char → List Char → Nat
  | c :: first, d :: second => if c == d then commonStart first second + 1 else 0
  | _, _ => 0

/-- Of two runs the longer, and of equally long ones the former. -/
def longer (run other : Run) : Run :=
  if run.size < other.size then other else run

/-- The longest run that begins at a place of the first text, here given from that place on, and
no earlier in the second text than at some place. -/
def runFrom (place : Nat) (first : List Char) (start : Nat) : List Char → Run
  | [] => {}
  | c :: second =>
    longer ⟨place, start, commonStart first (c :: second)⟩ (runFrom place first (start + 1) second)

/-- The longest run that begins no earlier in the first text than at some place. -/
def longestFrom (place : Nat) (second : List Char) : List Char → Run
  | [] => {}
  | c :: first =>
    longer (runFrom place (c :: first) 0 second) (longestFrom (place + 1) second first)

/-- The longest run that two texts share; of several, the earliest in the first text, and of
those the earliest in the second. -/
def longestRun (first second : List Char) : Run :=
  longestFrom 0 second first

/-! ### The measure -/

/-- How many characters of two texts agree in order. -/
def agreeing (first second : List Char) : Nat :=
  let run := longestRun first second
  if 0 < run.size ∧ run.first < first.length then
    agreeing (first.take run.first) (second.take run.second) + run.size +
      agreeing (first.drop (run.first + run.size)) (second.drop (run.second + run.size))
  else 0
termination_by first.length
decreasing_by
  all_goals
    simp +zetaDelta only [List.length_take, List.length_drop] at *
    omega

/-- A candidate, and how much of it and of the text agrees: so many characters out of so many. -/
structure Rated where
  candidate : String
  count : Nat
  total : Nat
  deriving DecidableEq, Repr

/-- Rates a candidate by a text. -/
def rate (text candidate : String) : Rated :=
  ⟨candidate, agreeing candidate.toList text.toList, candidate.length + text.length⟩

/-- Whether a candidate is like the text: three fifths or more agree. -/
def Rated.isAlike (rated : Rated) : Bool :=
  decide (3 * rated.total ≤ 10 * rated.count)

/-- Whether a candidate comes before another: the more agrees the earlier, and where as much
does, the later in the alphabet. -/
def Rated.precedes (rated other : Rated) : Bool :=
  let here := rated.count * other.total
  let there := other.count * rated.total
  decide (there < here) || (here == there && decide (other.candidate ≤ rated.candidate))

/-- The candidates that are most like a text, three at most, in the order of the alphabet. -/
def closest (text : String) (candidates : List String) : List String :=
  let alike := (candidates.map (rate text)).filter Rated.isAlike
  let best := ((alike.mergeSort Rated.precedes).take 3).map Rated.candidate
  best.mergeSort fun one other => decide (one ≤ other)

end BallotWatch.Text.Likeness
