/-
This file holds the counters of a run.
-/

namespace BallotWatch

/-- What happened in a run, counted. -/
structure Counters where
  ticks : Nat := 0
  failedTicks : Nat := 0
  rangesCommitted : Nat := 0
  totalLogs : Nat := 0
  decoded : Nat := 0
  skipped : Nat := 0
  notifications : Nat := 0
  dispatchFailures : Nat := 0
  deriving DecidableEq, Repr, Inhabited

/-- The counters with their names, in order. -/
def Counters.named (counters : Counters) : List (String × Int) :=
  [("ticks", counters.ticks), ("failed_ticks", counters.failedTicks),
    ("ranges_committed", counters.rangesCommitted), ("total_logs", counters.totalLogs),
    ("decoded", counters.decoded), ("skipped", counters.skipped),
    ("notifications", counters.notifications),
    ("dispatch_failures", counters.dispatchFailures)]

end BallotWatch
