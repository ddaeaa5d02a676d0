/-
This file holds the places where a scan can start: the first block of the chain, a given block,
after the newest block, or a number of blocks behind it.
-/

import BallotWatch.Fault

namespace BallotWatch

/-- The ways to say where a scan starts. -/
inductive StartKind
  | earliest
  | latest
  | start
  | tail
  deriving DecidableEq, Repr, Inhabited

namespace StartKind

/-- The name of a way to start. -/
def name : StartKind → String
  | earliest => "earliest"
  | latest => "latest"
  | start => "start"
  | tail => "tail"

/-- All ways to start. -/
def all : List StartKind :=
  [earliest, latest, start, tail]

/-- Whether the number that goes with a way to start has a meaning. -/
def isNumbered : StartKind → Bool
  | start | tail => true
  | earliest | latest => false

end StartKind

/-- Where a scan starts. The number is a block for `start` and a count of blocks for `tail`. -/
structure StartMode where
  kind : StartKind
  value : Nat := 0
  deriving DecidableEq, Repr, Inhabited

/-- A number below zero was given with a way to start. -/
structure StartFault where
  kind : StartKind
  value : Int
  deriving DecidableEq, Repr

/-- The fault in words. -/
def StartFault.message (fault : StartFault) : String :=
  s!"{fault.kind.name} value must be >= 0, got {fault.value}"

/-- The fault as it is passed on. -/
def StartFault.toFault (fault : StartFault) : Fault :=
  .telling [fault.value] .value fault.message

namespace StartMode

/-- A start with any whole number, refused where it lies below zero. -/
def make (kind : StartKind) (value : Int) : Except StartFault StartMode :=
  if value < 0 then .error ⟨kind, value⟩ else .ok ⟨kind, value.toNat⟩

/-- At the first block of the chain. -/
def earliest : StartMode :=
  ⟨.earliest, 0⟩

/-- After the newest block. -/
def latest : StartMode :=
  ⟨.latest, 0⟩

/-- A start as a message shows it. -/
def written (mode : StartMode) : String :=
  if mode.kind.isNumbered then s!"{mode.kind.name}={mode.value}" else mode.kind.name

end StartMode

end BallotWatch
