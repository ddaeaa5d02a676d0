/-
This file proves that a failed tick leaves no trace but in the counts of questions. Whether the
node did not tell the newest block or the logs of one of the contracts, nothing has been committed
or handed on by then, and the next block is the same as before. So the next tick that sees it asks
all contracts again from that block.
-/

import BallotWatch.Proofs.Scan.Tick

namespace BallotWatch

variable {NodeState SinkState : Type}

namespace Engine

variable {engine : Engine NodeState SinkState} {scan after : Scan NodeState SinkState}

/-! ### Failed ticks -/

/-- A tick fails when the node does not tell the newest block, or when asking the contracts for
the logs up to it stops at one of them. -/
inductive Fails (engine : Engine NodeState SinkState) (scan : Scan NodeState SinkState)
    (fault : Fault) : Prop
  | tip (silent : (engine.askTip scan.begun).1 = .error fault)
  | logs {tip : Int} {asked anchored : Scan NodeState SinkState} {range : BlockRange}
      (told : engine.askTip scan.begun = (.ok tip, asked))
      (placed : engine.anchor tip asked = (.ok (), anchored))
      (handed : anchored.cursor.nextRange tip = .ok (some range))
      (stops : engine.Stops range engine.contracts anchored fault)

/-- What a failed tick leaves as it was: the sink and what it was handed, what was committed, and
the counts of both. -/
structure LeavesNoTrace (before after : Scan NodeState SinkState) : Prop where
  sink : after.sink = before.sink
  attempts : after.attempts = before.attempts
  lastCommitted : after.cursor.lastCommitted? = before.cursor.lastCommitted?
  limitReached : after.limitReached = before.limitReached
  rangesCommitted : after.counters.rangesCommitted = before.counters.rangesCommitted
  notifications : after.counters.notifications = before.counters.notifications
  dispatchFailures : after.counters.dispatchFailures = before.counters.dispatchFailures

/-! ### The next tick -/

/-- A tick that sees no new block: the node does not tell the newest one, or it lies before the
next. -/
def SeesNothingNew (engine : Engine NodeState SinkState) (scan : Scan NodeState SinkState) :
    Prop :=
  ∀ tip next, (engine.askTip scan.begun).1 = .ok tip → scan.cursor.next = .ok next → tip < next

/-- Ticks that see no new block lead from one state to another. -/
inductive Waits (engine : Engine NodeState SinkState) :
    Scan NodeState SinkState → Scan NodeState SinkState → Prop
  | refl (scan : Scan NodeState SinkState) : Waits engine scan scan
  | tick {first second : Scan NodeState SinkState} (waits : Waits engine first second)
      (nothingNew : engine.SeesNothingNew second) : Waits engine first (engine.tick second).2

/-- A tick that sees nothing new leaves the cursor where it is. -/
theorem cursor_of_seesNothingNew {next : Int} (nothingNew : engine.SeesNothingNew scan)
    (isNext : scan.cursor.next = .ok next) : (engine.tick scan).2.cursor = scan.cursor := by
  obtain ⟨cursor, goesOn, same | ⟨tip, range, told, handed, -⟩⟩ := engine.tick_cursor_cases scan
  · rw [same]
    exact goesOn.eq_of_next isNext
  · rw [goesOn.eq_of_next isNext,
      Cursor.nextRange_of_lt isNext (nothingNew tip next told isNext)] at handed
    cases handed

theorem Waits.cursor {retry : Scan NodeState SinkState} {next : Int}
    (waits : engine.Waits after retry) (isNext : after.cursor.next = .ok next) :
    retry.cursor = after.cursor := by
  induction waits with
  | refl => rfl
  | tick _ nothingNew inductionHypothesis =>
    rw [← inductionHypothesis] at isNext
    exact (cursor_of_seesNothingNew nothingNew isNext).trans inductionHypothesis

/-- A tick asks the contracts for the span from one block to another, in their order, and all of
them unless it fails too. -/
def AsksAll (engine : Engine NodeState SinkState) (scan : Scan NodeState SinkState)
    (first last : Int) : Prop :=
  ∃ range asked, range.first = first ∧ range.last = last ∧ asked <+: engine.contracts ∧
    (engine.tick scan).2.calls =
      scan.calls ++ .tip :: asked.map (fun contract => .logs (contract.query range)) ∧
    (asked = engine.contracts ∨ ∃ fault, engine.Fails scan fault)

/-- A tick that sees the next block asks all contracts from there. -/
theorem asksAll_of_le {tip next : Int} (told : (engine.askTip scan.begun).1 = .ok tip)
    (isNext : scan.cursor.next = .ok next) (nonneg : 0 ≤ next) (reached : next ≤ tip) :
    engine.AsksAll scan next tip := by
  have askedCursor : (engine.askTip scan.begun).2.cursor = scan.cursor := rfl
  have askedCalls : (engine.askTip scan.begun).2.calls = scan.calls ++ [.tip] := rfl
  rcases outcome : engine.askTip scan.begun with ⟨result, asked⟩
  rw [outcome] at told askedCursor askedCalls
  obtain rfl : result = .ok tip := told
  rw [← askedCursor] at isNext
  have placed := engine.anchor_of_isAnchored tip (Cursor.isAnchored_of_next isNext)
  have handed := Cursor.nextRange_of_le isNext nonneg reached
  obtain ⟨contracts, isPrefix, calls, ended⟩ := engine.advance_calls handed
  refine ⟨⟨next, tip, nonneg, reached⟩, contracts, rfl, rfl, isPrefix, ?_, ?_⟩
  · rw [tick_of_placed outcome placed, calls, askedCalls, List.append_assoc]
    rfl
  · rcases ended with all | ⟨fault, stops⟩
    · exact Or.inl all
    · exact Or.inr ⟨fault, .logs outcome placed handed stops⟩

/-! ### A failed tick -/

theorem LeavesNoTrace.of_kept {cursor : Cursor}
    (kept : Scan.Kept { scan with cursor := cursor } after)
    (lastCommitted : cursor.lastCommitted? = scan.cursor.lastCommitted?) :
    LeavesNoTrace scan after where
  sink := kept.sink
  attempts := kept.attempts
  lastCommitted := by
    rw [kept.cursor]
    exact lastCommitted
  limitReached := kept.limitReached
  rangesCommitted := kept.rangesCommitted
  notifications := kept.notifications
  dispatchFailures := kept.dispatchFailures

theorem GoesOnAt.lastCommitted {cursor : Cursor} (goesOn : engine.GoesOnAt scan cursor)
    (reachable : engine.Reachable scan) : cursor.lastCommitted? = scan.cursor.lastCommitted? := by
  rcases goesOn with rfl | ⟨unplaced, tip, place, -, first⟩
  · rfl
  · obtain ⟨start, -, rfl⟩ := Cursor.anchored_eq_ok first
    exact (reachable.lastCommitted (Cursor.start?_of_not_isAnchored unplaced)).symm

/-- A failed tick has committed nothing and handed nothing on. It changes the place on the chain
only where it was not known, and it asked the contracts from the block that is still the next. So
the next tick that sees this block asks all of them from it again. -/
theorem tick_of_fails {fault : Fault} (reachable : engine.Reachable scan)
    (fails : engine.Fails scan fault) :
    (engine.tick scan).1 = fault.ending [] ∧
      LeavesNoTrace scan (engine.tick scan).2 ∧
      engine.GoesOnAt scan (engine.tick scan).2.cursor ∧
      (∃ made, (engine.tick scan).2.calls = scan.calls ++ made ∧
        ∀ query, .logs query ∈ made →
          (engine.tick scan).2.cursor.next = .ok query.range.first) ∧
      (engine.node.TellsBlocks → ∀ next, (engine.tick scan).2.cursor.next = .ok next →
        ∀ retry, engine.Waits (engine.tick scan).2 retry →
          ∀ tip, (engine.askTip retry.begun).1 = .ok tip → next ≤ tip →
            engine.AsksAll retry next tip) := by
  have again : engine.node.TellsBlocks → ∀ next, (engine.tick scan).2.cursor.next = .ok next →
      ∀ retry, engine.Waits (engine.tick scan).2 retry →
        ∀ tip, (engine.askTip retry.begun).1 = .ok tip → next ≤ tip →
          engine.AsksAll retry next tip := by
    intro blocks next isNext retry waits tip told reached
    have nonneg := reachable.tick.next_nonneg blocks isNext
    have same := waits.cursor isNext
    rw [← same] at isNext
    exact asksAll_of_le told isNext nonneg reached
  cases fails with
  | tip silent =>
    obtain ⟨ended, kept, calls⟩ := tick_of_silent (Prod.ext silent rfl)
    refine ⟨ended, .of_kept kept rfl, Or.inl kept.cursor, ⟨[.tip], calls, ?_⟩, again⟩
    intro query member
    cases List.mem_singleton.mp member
  | @logs tip asked anchored range told placed handed stops =>
    obtain ⟨goesOn, begun, begunCalls⟩ := goesOnAt_of_anchor told placed
    obtain ⟨ended, kept, calls⟩ := advance_of_stops handed stops
    rw [← tick_of_placed told placed] at ended kept calls
    obtain ⟨-, contracts, -, collectCalls, -⟩ :=
      engine.collect_cases range engine.contracts anchored
    refine ⟨ended, .of_kept (begun.trans kept) (goesOn.lastCommitted reachable), ?_,
      ⟨.tip :: contracts.map (fun contract => .logs (contract.query range)), ?_, ?_⟩, again⟩
    · rw [kept.cursor]
      exact goesOn
    · rw [calls, collectCalls, begunCalls, List.append_assoc]
      rfl
    · intro query member
      rcases List.mem_cons.mp member with other | inAsked
      · cases other
      · obtain ⟨contract, -, same⟩ := List.mem_map.mp inAsked
        cases same
        rw [kept.cursor]
        exact (Cursor.next_of_nextRange handed).1

/-- The first tick over a node without logs fails, and the second asks from the same block. -/
theorem tick_of_fails_without_logs :
    let contract : Monitored := ⟨.threshold, "0x00", ⟨.threshold, .v2, "", "", [], List.nodup_nil⟩⟩
    let config : WatchConfig :=
      { network := .core, endpoint := "", version := .v2, kinds := [.threshold], addresses := []
        start := .earliest, pollInterval := default }
    let node := NodeAccess.constant 7 fun _ => .error ⟨.network, "no logs"⟩
    let engine : Engine Nat Unit := ⟨config, [contract], node, fun _ state => ({}, state)⟩
    let scan : Scan Nat Unit := { node := 3, sink := () }
    let after := (engine.tick scan).2
    engine.Reachable scan ∧ engine.Fails scan ⟨.network, "no logs"⟩ ∧ after.attempts = [] ∧
      after.cursor.next = .ok 0 ∧ engine.AsksAll after 0 7 := by
  intro contract config node engine scan after
  have reachable : engine.Reachable scan := .fresh 3 () {} false
  have fails : engine.Fails scan ⟨.network, "no logs"⟩ :=
    .logs rfl rfl rfl (.logs rfl)
  have blocks : engine.node.TellsBlocks := NodeAccess.constant_tellsBlocks 7 _
  obtain ⟨-, noTrace, -, -, again⟩ := tick_of_fails reachable fails
  have isNext : after.cursor.next = .ok 0 := rfl
  exact ⟨reachable, fails, noTrace.attempts, isNext,
    again blocks 0 isNext after (.refl after) 7 rfl (by decide)⟩

end Engine

end BallotWatch
