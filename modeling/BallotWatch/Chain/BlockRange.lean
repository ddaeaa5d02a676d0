/-
This file holds inclusive spans of blocks. A span is never empty and never reaches below the
first block of the chain.
-/

import BallotWatch.Fault

namespace BallotWatch

/-- The blocks from a first to a last one, both included. -/
structure BlockRange where
  first : Int
  last : Int
  nonneg : 0 ≤ first
  ordered : first ≤ last
  deriving DecidableEq, Repr

/-- Why two numbers span no blocks, or a span cannot be counted. -/
inductive RangeFault
  | invalid (first last : Int)
  | tooLong
  deriving DecidableEq, Repr

/-- The fault in words. -/
def RangeFault.message : RangeFault → String
  | invalid first last => s!"invalid block range {first}..{last}"
  | tooLong => "cannot fit 'int' into an index-sized integer"

/-- The fault as it is passed on. -/
def RangeFault.toFault (fault : RangeFault) : Fault :=
  match fault with
  | invalid first last => .telling [first, last] .value fault.message
  | tooLong => ⟨.overflow, fault.message⟩

namespace BlockRange

/-- The span between two numbers, if there is one. -/
def make (first last : Int) : Except RangeFault BlockRange :=
  if bounds : 0 ≤ first ∧ first ≤ last then .ok ⟨first, last, bounds.1, bounds.2⟩
  else .error (.invalid first last)

/-- The number of blocks in a span. -/
def size (range : BlockRange) : Int :=
  range.last - range.first + 1

/-- The greatest size that can be counted. -/
def sizeLimit : Int :=
  0x7fffffffffffffff

/-- The number of blocks, where it stays within the limit. -/
def count (range : BlockRange) : Except RangeFault Int :=
  if range.size ≤ sizeLimit then .ok range.size else .error .tooLong

/-- A span as a message shows it. -/
def written (range : BlockRange) : String :=
  s!"{range.first}..{range.last}"

theorem size_pos (range : BlockRange) : 0 < range.size := by
  have ordered := range.ordered
  unfold size
  omega

end BlockRange

end BallotWatch
