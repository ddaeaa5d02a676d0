/-
This file holds the records that a watch writes about its own work, and the parts of the
program that write them.
-/

namespace BallotWatch.Journal

/-- How much a record matters. -/
inductive Level
  | debug
  | info
  | warning
  | error
  | critical
  deriving DecidableEq, Repr, Inhabited

namespace Level

/-- The name of a level. -/
def name : Level → String
  | debug => "DEBUG"
  | info => "INFO"
  | warning => "WARNING"
  | error => "ERROR"
  | critical => "CRITICAL"

/-- All levels, from the least. -/
def all : List Level :=
  [debug, info, warning, error, critical]

/-- The rank of a level. -/
def rank : Level → Nat
  | debug => 0
  | info => 1
  | warning => 2
  | error => 3
  | critical => 4

/-- Whether a level matters at least as much as another. -/
def atLeast (level threshold : Level) : Bool :=
  decide (threshold.rank ≤ level.rank)

end Level

/-- The parts of the program that write records. -/
inductive Source
  | scan
  | notice
  | watch
  | command
  deriving DecidableEq, Repr, Inhabited

/-- The name of a part in its records. -/
def Source.name : Source → String
  | scan => "govwatch.core.use_cases.scan"
  | notice => "govwatch.notify.dispatchers"
  | watch => "govwatch.orchestration.orchestrator"
  | command => "govwatch"

/-- A record. -/
structure Record where
  level : Level
  source : Source
  text : String
  deriving DecidableEq, Repr

end BallotWatch.Journal
