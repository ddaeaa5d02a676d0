/-
This file describes sets of characters by their boundaries: the code points, in ascending
order, at which membership changes. A property that a standard lists as thousands of
characters in a few hundred runs then takes two numbers per run.
-/

namespace BallotWatch.Text

/-- A set of characters, given by the code points at which membership changes. The list is
ascending, and code point zero is outside unless it is itself a boundary. -/
structure CodeSet where
  boundaries : List Nat

/-- A character belongs when an odd number of boundaries lie at or below it. -/
def CodeSet.contains (set : CodeSet) (c : Char) : Bool :=
  (set.boundaries.takeWhile fun boundary => decide (boundary ≤ c.toNat)).length % 2 == 1

end BallotWatch.Text
