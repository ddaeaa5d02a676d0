/-
This file proves that a notification is handed to the sink once at most, and not before the span in
which it was found has been committed. A tick hands on its notifications in the order of the chain,
up to the limit or to the first fault that is no failed delivery. Whatever becomes of them, no later
tick asks for a block of the span again.
-/

import BallotWatch.Proofs.Scan.Report
import BallotWatch.Proofs.Scan.Step

namespace BallotWatch

variable {NodeState SinkState : Type}

/-- Where the entry of a notification stands on the chain. -/
def Notification.position (notification : Notification) : Position :=
  ⟨notification.block, notification.index⟩

namespace Engine

variable {engine : Engine NodeState SinkState}
  {scan asked anchored collected : Scan NodeState SinkState} {tip next : Int} {range : BlockRange}
  {found : List Found}

/-! ### Ticks that find something out -/

/-- A tick that finds ballots in a span has it in hand as the one that comes next. -/
theorem tick_of_finds (finds : engine.Finds scan range found collected) :
    engine.tick scan = engine.finish range found collected ∧
      collected.cursor.next = .ok range.first ∧ collected.attempts = scan.attempts := by
  obtain ⟨told, placed, handed, collects⟩ := finds
  obtain ⟨-, begun, -⟩ := goesOnAt_of_anchor told placed
  have kept := (calls_of_collect collects).1
  refine ⟨?_, next_of_kept handed kept, kept.attempts.trans begun.attempts⟩
  rw [tick_of_placed told placed, advance_of_found handed collects]

/-- Any other tick hands nothing on and returns nothing. -/
theorem finds_or_quiet (engine : Engine NodeState SinkState) (scan : Scan NodeState SinkState) :
    (∃ range found collected, engine.Finds scan range found collected) ∨
      (engine.tick scan).2.attempts = scan.attempts ∧ returned (engine.tick scan).1 = [] := by
  cases engine.course scan with
  | silent silent =>
    obtain ⟨ended, kept, -⟩ := tick_of_silent silent
    rw [ended]
    exact Or.inr ⟨kept.attempts, returned_ending _⟩
  | unplaced told unplaced =>
    rw [tick_of_unplaced told unplaced]
    exact Or.inr ⟨(goesOnAt_of_anchor told unplaced).2.1.attempts, rfl⟩
  | lost told placed refused =>
    rw [tick_of_placed told placed, advance_of_error refused]
    exact Or.inr ⟨(goesOnAt_of_anchor told placed).2.1.attempts, rfl⟩
  | idle told placed idle =>
    obtain ⟨ended, kept⟩ := engine.advance_of_none idle
    rw [tick_of_placed told placed, ended]
    exact Or.inr ⟨kept.attempts.trans (goesOnAt_of_anchor told placed).2.1.attempts, rfl⟩
  | stops told placed handed stops =>
    obtain ⟨ended, kept, -⟩ := advance_of_stops handed stops
    rw [tick_of_placed told placed, ended]
    exact Or.inr ⟨kept.attempts.trans (goesOnAt_of_anchor told placed).2.1.attempts,
      returned_ending _⟩
  | finds finds => exact Or.inl ⟨_, _, _, finds⟩

/-! ### What a tick asks -/

end Engine

end BallotWatch
