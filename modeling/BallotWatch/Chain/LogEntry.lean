/-
This file holds the log entries that a node reports and the order in which the chain wrote
them: by block, and within a block by the place in it.
-/

namespace BallotWatch

/-- A log entry as a node reports it. -/
structure LogEntry where
  address : String
  topics : List String
  data : List UInt8
  block : Int
  index : Int
  transaction : String := ""
  deriving DecidableEq, Repr, Inhabited

/-- A place on the chain: a block and an index in it. -/
structure Position where
  block : Int
  index : Int
  deriving DecidableEq, Repr

/-- Whether a place comes no later than another. -/
def Position.atMost (first second : Position) : Bool :=
  decide (first.block < second.block) ||
    (decide (first.block = second.block) && decide (first.index ≤ second.index))

/-- Where an entry stands on the chain. -/
def LogEntry.position (entry : LogEntry) : Position :=
  ⟨entry.block, entry.index⟩

/-- Sorts things by their places on the chain. Things at one place keep their order. -/
def sortByPosition {α : Type} (position : α → Position) (items : List α) : List α :=
  items.mergeSort fun first second => (position first).atMost (position second)

end BallotWatch
