/-
This file says what a scan needs from outside: a node that answers questions about the chain,
and a clock. While an answer is awaited the scan may be asked to stop.

A node here runs dry: each question for the newest block uses up some of what it can still say,
unless the answer comes with the request to stop. So a scan over any such node ends.
-/

import BallotWatch.Node.Client
import BallotWatch.Time.Instant

namespace BallotWatch

/-! ### Nodes -/

/-- What came of a question, and whether the scan was asked to stop meanwhile. -/
structure Outcome (Answer : Type) where
  result : Except Fault Answer
  stop : Bool := false

/-- A node over a state of its own. The last field counts what it can still say before it asks
the scan to stop. -/
structure NodeAccess (State : Type) where
  tip : State → Outcome Int × State
  logs : Node.LogQuery → State → Outcome (List LogEntry) × State
  supply : State → Nat
  tip_spends : ∀ state, (tip state).1.stop = false → supply (tip state).2 < supply state
  logs_supply : ∀ query state, supply (logs query state).2 ≤ supply state

/-- A node that plays a plan: its answers for the newest block and for logs, one after another.
When there is none left for a question, the answer is a fault of the network and the scan is
asked to stop. -/
structure NodePlan where
  tips : List (Outcome Int) := []
  logs : List (Outcome (List LogEntry)) := []
  atEnd : Fault

namespace NodePlan

/-- The next answer of a list, and what to do at its end. -/
def next {Answer : Type} (plan : NodePlan) (answers : List (Outcome Answer)) : Outcome Answer :=
  answers.head?.getD ⟨.error plan.atEnd, true⟩

/-- A plan as a node. -/
def access : NodeAccess NodePlan where
  tip plan := (plan.next plan.tips, { plan with tips := plan.tips.tail })
  logs _ plan := (plan.next plan.logs, { plan with logs := plan.logs.tail })
  supply plan := plan.tips.length
  tip_spends plan continues := by
    cases present : plan.tips with
    | nil => simp [next, present] at continues
    | cons first rest => simp
  logs_supply _ _ := Nat.le_refl _

end NodePlan

/-- A client as a node. When its replies have run out, the scan is asked to stop. -/
def Node.Client.access : NodeAccess Node.Client where
  tip client :=
    let (result, after) := client.latestBlock
    (⟨(result.map Int.ofNat).mapError Node.CallFault.toFault, client.replies.isEmpty⟩, after)
  logs query client :=
    let (result, after) := client.logs query
    (⟨result.mapError Node.CallFault.toFault, client.replies.isEmpty⟩, after)
  supply client := client.replies.length
  tip_spends client continues := by
    cases present : client.replies with
    | nil => simp [present] at continues
    | cons first rest => simp [Node.Client.latestBlock, Node.Client.send, present]
  logs_supply query client := by
    simp [Node.Client.logs, Node.Client.send]

/-! ### Clocks -/

/-- A clock: what it shows now, and what it will show each time after it has been read. The
last of these stays. -/
structure Clock where
  now : Instant := Instant.epoch
  later : List Instant := []
  deriving Repr

/-- The clock after it has been read. -/
def Clock.afterReading (clock : Clock) : Clock :=
  match clock.later with
  | [] => clock
  | next :: rest => ⟨next, rest⟩

end BallotWatch
