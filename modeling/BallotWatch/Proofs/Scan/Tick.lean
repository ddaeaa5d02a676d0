/-
This file says once what a tick can do. It may end where the node does not tell the newest block,
where the scan cannot be placed on the chain, where there is no new block, or where the asking
stops. Otherwise the cursor moves past the span that was asked for, and the notifications are
handed on.
-/

import BallotWatch.Proofs.Scan.Asking
import BallotWatch.Proofs.Scan.Handing

namespace BallotWatch

variable {NodeState SinkState : Type}

/-- A node that tells no newest block below the first one. -/
def NodeAccess.TellsBlocks (node : NodeAccess NodeState) : Prop :=
  ∀ state tip, (node.tip state).1.result = .ok tip → 0 ≤ tip

/-- A node that tells one newest block, as often as it still can, and answers every query in one
way. -/
def NodeAccess.constant (newest : Nat)
    (answer : Node.LogQuery → Except Fault (List LogEntry)) : NodeAccess Nat where
  tip left := (⟨.ok newest, left == 0⟩, left - 1)
  logs query left := (⟨answer query, false⟩, left)
  supply left := left
  tip_spends left continues := by
    have remains : left ≠ 0 := by
      rintro rfl
      cases continues
    omega
  logs_supply _ _ := Nat.le_refl _

theorem NodeAccess.constant_tellsBlocks (newest : Nat)
    (answer : Node.LogQuery → Except Fault (List LogEntry)) :
    (NodeAccess.constant newest answer).TellsBlocks := by
  intro state tip told
  cases told
  exact Int.natCast_nonneg newest

theorem Node.Client.access_tellsBlocks : Node.Client.access.TellsBlocks := by
  intro client tip told
  simp only [Node.Client.access] at told
  cases answer : client.latestBlock.1 with
  | error fault =>
    rw [answer] at told
    cases told
  | ok block =>
    rw [answer] at told
    cases told
    exact Int.natCast_nonneg block

namespace Engine

variable {engine : Engine NodeState SinkState} {range : BlockRange}
  {scan asked : Scan NodeState SinkState} {found : List Found} {fault : Fault}

/-! ### Results -/

/-- The notifications of a tick. One that ends with a fault has none. -/
def returned : Except Fault (List Notification) → List Notification
  | .ok notifications => notifications
  | .error _ => []

theorem returned_ending (fault : Fault) : returned (fault.ending []) = [] := by
  obtain ⟨kind, message⟩ := fault
  cases kind <;> rfl

/-! ### From the place to the newest block -/

variable {anchored collected : Scan NodeState SinkState} {tip : Int}

theorem advance_of_error {reason : CursorFault}
    (refused : scan.cursor.nextRange tip = .error reason) :
    engine.advance tip scan = (.error reason.toFault, scan) := by
  rw [advance, refused]

theorem advance_of_none (engine : Engine NodeState SinkState)
    (idle : scan.cursor.nextRange tip = .ok none) :
    (engine.advance tip scan).1 = .ok [] ∧ scan.Kept (engine.advance tip scan).2 := by
  rw [advance, idle]
  exact ⟨rfl, Scan.note_kept ..⟩

/-- Where the asking stops, the cursor stays and nothing is handed on. -/
theorem advance_of_stops (handed : scan.cursor.nextRange tip = .ok (some range))
    (stops : engine.Stops range engine.contracts scan fault) :
    (engine.advance tip scan).1 = fault.ending [] ∧ scan.Kept (engine.advance tip scan).2 ∧
      (engine.advance tip scan).2.calls =
        (engine.collect range engine.contracts scan).2.calls := by
  have ended := collect_of_stops stops
  have kept := (engine.collect_cases range engine.contracts scan).1
  rw [advance, handed]
  dsimp only
  revert ended kept
  generalize engine.collect range engine.contracts scan = outcome
  obtain ⟨result, after⟩ := outcome
  intro ended kept
  obtain rfl : result = fault.ending none := ended
  obtain ⟨kind, message⟩ := fault
  cases kind
  case network => exact ⟨rfl, kept.trans after.countFailure_kept, rfl⟩
  case rpc => exact ⟨rfl, kept.trans after.countFailure_kept, rfl⟩
  all_goals exact ⟨rfl, kept, rfl⟩

theorem advance_of_found (handed : scan.cursor.nextRange tip = .ok (some range))
    (collects : engine.collect range engine.contracts scan = (.ok (some found), collected)) :
    engine.advance tip scan = engine.finish range found collected := by
  rw [advance, handed]
  simp only [collects]

theorem advance_of_fault (handed : scan.cursor.nextRange tip = .ok (some range))
    (failed : engine.collect range engine.contracts scan = (.error fault, collected)) :
    engine.advance tip scan = (.error fault, collected) := by
  rw [advance, handed]
  simp only [failed]

/-- A span in hand starts at the next block, and still does when the contracts have been asked. -/
theorem next_of_kept (handed : scan.cursor.nextRange tip = .ok (some range))
    (kept : scan.Kept collected) : collected.cursor.next = .ok range.first := by
  rw [kept.cursor]
  exact (Cursor.next_of_nextRange handed).1

/-- From its place a scan ends with nothing done, or finishes the span that it was handed. -/
theorem advance_cases (engine : Engine NodeState SinkState) (tip : Int)
    (scan : Scan NodeState SinkState) :
    scan.Kept (engine.advance tip scan).2 ∧ returned (engine.advance tip scan).1 = [] ∨
      ∃ range found collected, scan.cursor.nextRange tip = .ok (some range) ∧
        engine.collect range engine.contracts scan = (.ok (some found), collected) ∧
          scan.Kept collected ∧ engine.advance tip scan = engine.finish range found collected := by
  cases handed : scan.cursor.nextRange tip with
  | error reason =>
    rw [advance_of_error handed]
    exact Or.inl ⟨Scan.Kept.refl scan, rfl⟩
  | ok range? =>
    cases range? with
    | none =>
      obtain ⟨ended, kept⟩ := engine.advance_of_none handed
      rw [ended]
      exact Or.inl ⟨kept, rfl⟩
    | some range =>
      obtain ⟨kept, -, -, -, ⟨found, same, -⟩ | ⟨fault, stops⟩⟩ :=
        engine.collect_cases range engine.contracts scan
      · have collects : engine.collect range engine.contracts scan =
            (.ok (some found), (engine.collect range engine.contracts scan).2) := Prod.ext same rfl
        exact Or.inr ⟨range, found, _, rfl, collects, kept, advance_of_found handed collects⟩
      · obtain ⟨ended, kept, -⟩ := advance_of_stops handed stops
        rw [ended, returned_ending]
        exact Or.inl ⟨kept, rfl⟩

/-- With a span at hand a tick asks the contracts for it, all of them unless it stops at one. -/
theorem advance_calls (engine : Engine NodeState SinkState)
    (handed : scan.cursor.nextRange tip = .ok (some range)) :
    ∃ asked, asked <+: engine.contracts ∧
      (engine.advance tip scan).2.calls =
        scan.calls ++ asked.map (fun contract => .logs (contract.query range)) ∧
      (asked = engine.contracts ∨ ∃ fault, engine.Stops range engine.contracts scan fault) := by
  obtain ⟨kept, asked, isPrefix, calls, ⟨found, same, all⟩ | ⟨fault, stops⟩⟩ :=
    engine.collect_cases range engine.contracts scan
  · refine ⟨asked, isPrefix, ?_, Or.inl all⟩
    rw [advance_of_found handed (Prod.ext same rfl),
      (engine.finish_cursor_calls found (next_of_kept handed kept)).2, calls]
  · refine ⟨asked, isPrefix, ?_, Or.inr ⟨fault, stops⟩⟩
    rw [(advance_of_stops handed stops).2.2, calls]

/-! ### The place on the chain -/

/-- The place on the chain with which a tick goes on: the one that the scan has, or its first, by
the newest block that the node tells. -/
def GoesOnAt (engine : Engine NodeState SinkState) (scan : Scan NodeState SinkState)
    (cursor : Cursor) : Prop :=
  cursor = scan.cursor ∨
    scan.cursor.isAnchored = false ∧
      ∃ tip place, (engine.askTip scan.begun).1 = .ok tip ∧
        Cursor.anchored engine.config.start tip = .ok (place, cursor)

theorem GoesOnAt.eq_of_next {cursor : Cursor} {next : Int} (goesOn : engine.GoesOnAt scan cursor)
    (isNext : scan.cursor.next = .ok next) : cursor = scan.cursor := by
  rcases goesOn with same | ⟨unplaced, -⟩
  · exact same
  · rw [Cursor.isAnchored_of_next isNext] at unplaced
    cases unplaced

theorem anchor_of_isAnchored (engine : Engine NodeState SinkState) (tip : Int)
    (known : scan.cursor.isAnchored = true) : engine.anchor tip scan = (.ok (), scan) := by
  rw [anchor, if_pos known]

/-- The scan stays as it is, or it was not on the chain yet and gets its first place there. -/
theorem anchor_cases (engine : Engine NodeState SinkState) (tip : Int)
    (scan : Scan NodeState SinkState) :
    (engine.anchor tip scan).2 = scan ∨
      scan.cursor.isAnchored = false ∧
        ∃ place cursor, Cursor.anchored engine.config.start tip = .ok (place, cursor) ∧
          (engine.anchor tip scan).2 = { scan with cursor := cursor } := by
  unfold anchor
  by_cases known : scan.cursor.isAnchored = true
  · rw [if_pos known]
    exact Or.inl rfl
  · rw [if_neg known]
    cases first : Cursor.anchored engine.config.start tip with
    | error reason => exact Or.inl rfl
    | ok place => exact Or.inr ⟨Bool.not_eq_true _ ▸ known, place.1, place.2, rfl, rfl⟩

/-- What comes before the contracts are asked changes the place on the chain only, and that only
where it was not known. -/
theorem goesOnAt_of_anchor {result : Except Fault Unit}
    (told : engine.askTip scan.begun = (.ok tip, asked))
    (ended : engine.anchor tip asked = (result, anchored)) :
    engine.GoesOnAt scan anchored.cursor ∧
      Scan.Kept { scan with cursor := anchored.cursor } anchored ∧
        anchored.calls = scan.calls ++ [.tip] := by
  have calls : (engine.askTip scan.begun).2.calls = scan.calls ++ [.tip] := rfl
  have kept := scan.begun_kept.trans (engine.askTip_kept scan.begun)
  have moved := engine.anchor_cases tip asked
  rw [told] at calls kept
  rw [ended] at moved
  rcases moved with same | ⟨unplaced, place, cursor, first, same⟩
  · obtain rfl : anchored = asked := same
    refine ⟨Or.inl kept.cursor, ?_, calls⟩
    exact ⟨kept.sink, kept.clock, rfl, kept.attempts, kept.limitReached, kept.rangesCommitted,
      kept.notifications, kept.dispatchFailures⟩
  · obtain rfl : anchored = { asked with cursor := cursor } := same
    rw [kept.cursor] at unplaced
    refine ⟨Or.inr ⟨unplaced, tip, place, congrArg Prod.fst told, first⟩, ?_, calls⟩
    exact ⟨kept.sink, kept.clock, rfl, kept.attempts, kept.limitReached, kept.rangesCommitted,
      kept.notifications, kept.dispatchFailures⟩

/-- By then only the tick has been counted. -/
theorem counters_of_anchor {result : Except Fault Unit}
    (told : engine.askTip scan.begun = (.ok tip, asked))
    (ended : engine.anchor tip asked = (result, anchored)) :
    anchored.counters = { scan.counters with ticks := scan.counters.ticks + 1 } := by
  have begun : asked.counters = scan.begun.counters :=
    congrArg (fun outcome => outcome.2.counters) told.symm
  have moved := engine.anchor_cases tip asked
  rw [ended] at moved
  rcases moved with same | ⟨-, place, cursor, -, same⟩
  · rw [show anchored = asked from same]
    exact begun
  · rw [show anchored = { asked with cursor := cursor } from same]
    exact begun

/-! ### Whole ticks -/

/-- A tick that is not told the newest block asks nothing else. -/
theorem tick_of_silent (silent : engine.askTip scan.begun = (.error fault, asked)) :
    (engine.tick scan).1 = fault.ending [] ∧ scan.Kept (engine.tick scan).2 ∧
      (engine.tick scan).2.calls = scan.calls ++ [.tip] := by
  have calls : (engine.askTip scan.begun).2.calls = scan.calls ++ [.tip] := rfl
  have kept := scan.begun_kept.trans (engine.askTip_kept scan.begun)
  rw [silent] at calls kept
  unfold Scan.begun at silent
  rw [tick, silent]
  obtain ⟨kind, message⟩ := fault
  cases kind <;>
    exact ⟨rfl, kept.trans ⟨rfl, rfl, rfl, rfl, rfl, rfl, rfl, rfl⟩, calls⟩

theorem tick_of_unplaced (told : engine.askTip scan.begun = (.ok tip, asked))
    (unplaced : engine.anchor tip asked = (.error fault, anchored)) :
    engine.tick scan = (.error fault, anchored) := by
  unfold Scan.begun at told
  rw [tick, told]
  simp only [unplaced]

theorem tick_of_placed (told : engine.askTip scan.begun = (.ok tip, asked))
    (placed : engine.anchor tip asked = (.ok (), anchored)) :
    engine.tick scan = engine.advance tip anchored := by
  unfold Scan.begun at told
  rw [tick, told]
  simp only [placed]

/-- A tick finds ballots in a span: it gets to the span, and all contracts answer about it. -/
inductive Finds (engine : Engine NodeState SinkState) (scan : Scan NodeState SinkState)
    (range : BlockRange) (found : List Found) (collected : Scan NodeState SinkState) : Prop
  | intro {tip : Int} {asked anchored : Scan NodeState SinkState}
      (told : engine.askTip scan.begun = (.ok tip, asked))
      (placed : engine.anchor tip asked = (.ok (), anchored))
      (handed : anchored.cursor.nextRange tip = .ok (some range))
      (collects : engine.collect range engine.contracts anchored = (.ok (some found), collected))

/-- The course of a tick: the node is silent about the newest block, the scan cannot be placed on
the chain or is lost there, no block is new, the asking stops, or ballots are found. -/
inductive Course (engine : Engine NodeState SinkState) (scan : Scan NodeState SinkState) : Prop
  | silent {fault : Fault} {asked : Scan NodeState SinkState}
      (silent : engine.askTip scan.begun = (.error fault, asked))
  | unplaced {tip : Int} {asked anchored : Scan NodeState SinkState} {fault : Fault}
      (told : engine.askTip scan.begun = (.ok tip, asked))
      (unplaced : engine.anchor tip asked = (.error fault, anchored))
  | lost {tip : Int} {asked anchored : Scan NodeState SinkState} {reason : CursorFault}
      (told : engine.askTip scan.begun = (.ok tip, asked))
      (placed : engine.anchor tip asked = (.ok (), anchored))
      (refused : anchored.cursor.nextRange tip = .error reason)
  | idle {tip : Int} {asked anchored : Scan NodeState SinkState}
      (told : engine.askTip scan.begun = (.ok tip, asked))
      (placed : engine.anchor tip asked = (.ok (), anchored))
      (idle : anchored.cursor.nextRange tip = .ok none)
  | stops {tip : Int} {asked anchored : Scan NodeState SinkState} {range : BlockRange}
      {fault : Fault} (told : engine.askTip scan.begun = (.ok tip, asked))
      (placed : engine.anchor tip asked = (.ok (), anchored))
      (handed : anchored.cursor.nextRange tip = .ok (some range))
      (stops : engine.Stops range engine.contracts anchored fault)
  | finds {range : BlockRange} {found : List Found} {collected : Scan NodeState SinkState}
      (finds : engine.Finds scan range found collected)

/-- Every tick takes one of these courses. -/
theorem course (engine : Engine NodeState SinkState) (scan : Scan NodeState SinkState) :
    engine.Course scan := by
  rcases told : engine.askTip scan.begun with ⟨result, asked⟩
  cases result with
  | error fault => exact .silent told
  | ok tip =>
    rcases placed : engine.anchor tip asked with ⟨result, anchored⟩
    cases result with
    | error fault => exact .unplaced told placed
    | ok _ =>
      cases handed : anchored.cursor.nextRange tip with
      | error reason => exact .lost told placed handed
      | ok range? =>
        cases range? with
        | none => exact .idle told placed handed
        | some range =>
          obtain ⟨-, -, -, -, ⟨found, same, -⟩ | ⟨fault, stops⟩⟩ :=
            engine.collect_cases range engine.contracts anchored
          · exact .finds ⟨told, placed, handed, Prod.ext same rfl⟩
          · exact .stops told placed handed stops

/-- Everything a tick can do. It goes on at a place and ends there with nothing done, or it
finishes the span from there to the newest block, after asking all contracts for it. -/
theorem tick_cases (engine : Engine NodeState SinkState) (scan : Scan NodeState SinkState) :
    ∃ cursor, engine.GoesOnAt scan cursor ∧
      (Scan.Kept { scan with cursor := cursor } (engine.tick scan).2 ∧
          returned (engine.tick scan).1 = [] ∨
        ∃ tip range found anchored collected, (engine.askTip scan.begun).1 = .ok tip ∧
          cursor.nextRange tip = .ok (some range) ∧
            engine.collect range engine.contracts anchored = (.ok (some found), collected) ∧
              Scan.Kept { scan with cursor := cursor } collected ∧
                engine.tick scan = engine.finish range found collected) := by
  rcases told : engine.askTip scan.begun with ⟨result, asked⟩
  cases result with
  | error fault =>
    obtain ⟨ended, kept, -⟩ := tick_of_silent told
    rw [ended, returned_ending]
    exact ⟨scan.cursor, Or.inl rfl, Or.inl ⟨kept, rfl⟩⟩
  | ok tip =>
    rcases placed : engine.anchor tip asked with ⟨result, anchored⟩
    obtain ⟨goesOn, kept, -⟩ := goesOnAt_of_anchor told placed
    refine ⟨anchored.cursor, goesOn, ?_⟩
    cases result with
    | error fault =>
      rw [tick_of_unplaced told placed]
      exact Or.inl ⟨kept, rfl⟩
    | ok _ =>
      rw [tick_of_placed told placed]
      rcases engine.advance_cases tip anchored with
        ⟨quiet, nothing⟩ | ⟨range, found, collected, handed, collects, still, finishes⟩
      · exact Or.inl ⟨kept.trans quiet, nothing⟩
      · exact Or.inr ⟨tip, range, found, anchored, collected, rfl, handed, collects,
          kept.trans still, finishes⟩

/-- Every way a tick can move on the chain: to the place where it goes on, and from there past the
span that it was handed. -/
theorem tick_cursor_cases (engine : Engine NodeState SinkState)
    (scan : Scan NodeState SinkState) :
    ∃ cursor, engine.GoesOnAt scan cursor ∧
      ((engine.tick scan).2.cursor = cursor ∨
        ∃ tip range, (engine.askTip scan.begun).1 = .ok tip ∧
          cursor.nextRange tip = .ok (some range) ∧
            (engine.tick scan).2.cursor = { cursor with lastCommitted? := some range.last }) := by
  obtain ⟨cursor, goesOn, ⟨kept, -⟩ | ⟨tip, range, found, anchored, collected, told, handed, -,
    kept, finishes⟩⟩ := engine.tick_cases scan
  · exact ⟨cursor, goesOn, Or.inl kept.cursor⟩
  · refine ⟨cursor, goesOn, Or.inr ⟨tip, range, told, handed, ?_⟩⟩
    rw [finishes, (engine.finish_cursor_calls found (next_of_kept handed kept)).1, kept.cursor]

/-! ### Reachable states -/

/-- The states that ticks lead to from a fresh one. -/
inductive Reachable (engine : Engine NodeState SinkState) : Scan NodeState SinkState → Prop
  | fresh (node : NodeState) (sink : SinkState) (clock : Clock) (stopped : Bool) :
      Reachable engine { node, sink, clock, stopped }
  | tick {scan : Scan NodeState SinkState} (reachable : Reachable engine scan) :
      Reachable engine (engine.tick scan).2

/-- What holds of a new cursor and of one with its first place, and is kept by commits, holds of
the cursor of every reachable state. -/
theorem Reachable.cursor (reachable : engine.Reachable scan) (holds : Cursor → Prop)
    (fresh : holds {})
    (anchored : ∀ node tip place cursor, (engine.node.tip node).1.result = .ok tip →
      Cursor.anchored engine.config.start tip = .ok (place, cursor) → holds cursor)
    (committed : ∀ cursor tip range, holds cursor → cursor.nextRange tip = .ok (some range) →
      holds { cursor with lastCommitted? := some range.last }) :
    holds scan.cursor := by
  induction reachable with
  | fresh => exact fresh
  | @tick scan _ inductionHypothesis =>
    obtain ⟨cursor, goesOn, moved⟩ := engine.tick_cursor_cases scan
    have placed : holds cursor := by
      rcases goesOn with rfl | ⟨-, tip, place, told, first⟩
      · exact inductionHypothesis
      · exact anchored _ tip place cursor told first
    rcases moved with same | ⟨tip, range, -, handed, same⟩
    · rw [same]
      exact placed
    · rw [same]
      exact committed cursor tip range placed handed

/-- Before the first place on the chain is known nothing has been committed. -/
theorem Reachable.lastCommitted (reachable : engine.Reachable scan)
    (unplaced : scan.cursor.start? = none) : scan.cursor.lastCommitted? = none := by
  refine reachable.cursor (fun cursor => cursor.start? = none → cursor.lastCommitted? = none)
    (fun _ => rfl) ?_ ?_ unplaced
  · intro node tip place cursor _ first _
    obtain ⟨start, -, rfl⟩ := Cursor.anchored_eq_ok first
    rfl
  · intro cursor tip range _ handed missing
    obtain ⟨start, known⟩ := Cursor.start?_of_next (Cursor.next_of_nextRange handed).1
    have absent : cursor.start? = none := missing
    rw [absent] at known
    cases known

/-- The next block is on the chain. -/
theorem Reachable.next_nonneg (reachable : engine.Reachable scan)
    (blocks : engine.node.TellsBlocks) {next : Int} (isNext : scan.cursor.next = .ok next) :
    0 ≤ next := by
  refine reachable.cursor (fun cursor => ∀ next, cursor.next = .ok next → 0 ≤ next) ?_ ?_ ?_ next
    isNext
  · intro next isNext
    cases isNext
  · intro node tip place cursor told first next isNext
    obtain ⟨start, same, nonneg⟩ := Cursor.next_anchored first (blocks node tip told)
    rw [same] at isNext
    cases isNext
    exact nonneg
  · intro cursor tip range _ handed next isNext
    rw [Cursor.next_committed (Cursor.next_of_nextRange handed).1] at isNext
    cases isNext
    have bounds := range.ordered
    have nonneg := range.nonneg
    omega

end Engine

end BallotWatch
