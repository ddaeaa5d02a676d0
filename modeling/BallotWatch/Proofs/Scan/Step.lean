/-
This file says once what a step from one moment of a run to the next can do. It puts at most one
question or hands on one notification, and the rest of what has been asked and handed on stays. A
span whose notifications are handed on has been committed by then, after all contracts were asked
about it.
-/

import BallotWatch.Proofs.Scan.Moment

namespace BallotWatch

variable {NodeState SinkState : Type}

/-! ### What is handed on -/

namespace Scan

/-- A scan with one more notification counted. -/
def withNotified (scan : Scan NodeState SinkState) : Scan NodeState SinkState :=
  scan.count fun counters => { counters with notifications := counters.notifications + 1 }

/-- A scan that has taken note of reaching the limit. -/
def withLimit (scan : Scan NodeState SinkState) (limit : Int) : Scan NodeState SinkState :=
  { scan.note .warning s!"reached notification limit ({limit}), shutting down" with
    limitReached := true }

/-- What a scan keeps as long as nothing is handed on. -/
structure HoldsBack (before after : Scan NodeState SinkState) : Prop where
  sink : after.sink = before.sink
  attempts : after.attempts = before.attempts
  limitReached : after.limitReached = before.limitReached
  notifications : after.counters.notifications = before.counters.notifications
  dispatchFailures : after.counters.dispatchFailures = before.counters.dispatchFailures

theorem HoldsBack.refl (scan : Scan NodeState SinkState) : scan.HoldsBack scan :=
  ⟨rfl, rfl, rfl, rfl, rfl⟩

theorem Kept.holdsBack {before after : Scan NodeState SinkState} {cursor : Cursor}
    (kept : Kept { before with cursor := cursor } after) : before.HoldsBack after :=
  ⟨kept.sink, kept.attempts, kept.limitReached, kept.notifications, kept.dispatchFailures⟩

end Scan

theorem Moment.scan_behind {Value : Type} (stage : Stage)
    (outcome : Except Fault Value × Scan NodeState SinkState) :
    (Moment.behind stage outcome).scan = outcome.2 := by
  rcases outcome with ⟨result, scan⟩
  cases result <;> rfl

theorem Moment.behindAsking_kept (range : BlockRange) (rest : List Monitored)
    (found : List Found) (outcome : Except Fault (Option (List Found)) × Scan NodeState SinkState) :
    outcome.2.Kept (Moment.behindAsking range rest found outcome).scan ∧
      (Moment.behindAsking range rest found outcome).scan.calls = outcome.2.calls := by
  rcases outcome with ⟨result, scan⟩
  match result with
  | .error fault => exact ⟨Scan.Kept.refl scan, rfl⟩
  | .ok none => exact ⟨scan.countFailure_kept, rfl⟩
  | .ok (some more) => exact ⟨Scan.Kept.refl scan, rfl⟩

namespace Engine

variable {engine : Engine NodeState SinkState}

theorem countNotification_eq (engine : Engine NodeState SinkState)
    (scan : Scan NodeState SinkState) :
    engine.countNotification scan =
      match engine.config.limit? with
      | none => scan.withNotified
      | some limit =>
        if limit ≤ ((scan.counters.notifications + 1 : Nat) : Int) then
          scan.withNotified.withLimit limit
        else scan.withNotified := by
  rfl

/-! ### One step -/

theorem place_kept (engine : Engine NodeState SinkState) (scan : Scan NodeState SinkState) :
    ∃ cursor, Scan.Kept { scan with cursor := cursor } (engine.place scan).scan ∧
      (engine.place scan).scan.calls = scan.calls ++ [.tip] := by
  have kept := engine.askTip_kept scan
  have calls : (engine.askTip scan).2.calls = scan.calls ++ [.tip] := rfl
  unfold place
  revert kept calls
  rcases engine.askTip scan with ⟨result, asked⟩
  intro kept calls
  cases result with
  | error fault =>
    dsimp only
    cases initialTrouble? fault with
    | none => exact ⟨scan.cursor, kept, calls⟩
    | some trouble => exact ⟨scan.cursor, kept.trans (asked.note_kept _ _), calls⟩
  | ok tip =>
    dsimp only
    cases engine.config.start.anchor tip with
    | error reason => exact ⟨scan.cursor, kept, calls⟩
    | ok placed =>
      exact ⟨{ start? := some placed.2 }, ⟨kept.sink, kept.clock, rfl, kept.attempts,
        kept.limitReached, kept.rangesCommitted, kept.notifications, kept.dispatchFailures⟩, calls⟩

theorem begin_kept (engine : Engine NodeState SinkState) (scan : Scan NodeState SinkState) :
    ∃ cursor, Scan.Kept { scan with cursor := cursor } (engine.begin scan).scan ∧
      (engine.begin scan).scan.calls = scan.calls ++ [.tip] := by
  unfold begin
  rcases told : engine.askTip scan.begun with ⟨result, asked⟩
  cases result with
  | error fault =>
    obtain ⟨-, kept, calls⟩ := tick_of_silent told
    rw [Moment.scan_behind]
    exact ⟨scan.cursor, kept, calls⟩
  | ok tip =>
    dsimp only
    rcases placed : engine.anchor tip asked with ⟨result, anchored⟩
    obtain ⟨-, kept, calls⟩ := goesOnAt_of_anchor told placed
    refine ⟨anchored.cursor, ?_⟩
    cases result with
    | error fault => exact ⟨kept, calls⟩
    | ok _ =>
      dsimp only
      cases handed : anchored.cursor.nextRange tip with
      | error reason =>
        rw [Moment.scan_behind, advance_of_error handed]
        exact ⟨kept, calls⟩
      | ok range? =>
        cases range? with
        | some range => exact ⟨kept, calls⟩
        | none =>
          rw [Moment.scan_behind]
          refine ⟨kept.trans (engine.advance_of_none handed).2, ?_⟩
          rw [advance, handed]
          exact calls

/-- Committing a span hands on nothing yet. -/
theorem close_holdsBack (engine : Engine NodeState SinkState) (range : BlockRange)
    (found : List Found) (scan : Scan NodeState SinkState) :
    scan.HoldsBack (engine.close range found scan).scan ∧
      (engine.close range found scan).scan.calls = scan.calls := by
  have read : scan.HoldsBack (engine.notifications found scan).2 ∧
      (engine.notifications found scan).2.calls = scan.calls := ⟨⟨rfl, rfl, rfl, rfl, rfl⟩, rfl⟩
  unfold close
  revert read
  rcases engine.notifications found scan with ⟨notifications, read⟩
  rintro ⟨kept, calls⟩
  dsimp only
  cases read.cursor.commit range with
  | error reason => exact ⟨kept, calls⟩
  | ok cursor =>
    exact ⟨⟨kept.sink, kept.attempts, kept.limitReached, kept.notifications,
      kept.dispatchFailures⟩, calls⟩

/-- Handing on one notification is one attempt more, and asks nothing. -/
theorem handOne_calls (engine : Engine NodeState SinkState) (range : BlockRange)
    (notification : Notification) (rest : List Notification) (scan : Scan NodeState SinkState) :
    (engine.handOne range notification rest scan).scan.attempts =
        scan.attempts ++ [notification] ∧
      (engine.handOne range notification rest scan).scan.cursor = scan.cursor ∧
        (engine.handOne range notification rest scan).scan.calls = scan.calls := by
  have attempts := engine.hand_attempts notification scan
  have kept := engine.hand_cursor_calls notification scan
  unfold handOne
  revert attempts kept
  rcases engine.hand notification scan with ⟨result, handed⟩
  intro attempts kept
  cases result with
  | error fault => exact ⟨attempts, kept⟩
  | ok _ =>
    have counted := engine.countNotification_cursor_calls handed
    have sameAttempts := engine.countNotification_attempts handed
    dsimp only
    split <;>
      exact ⟨sameAttempts.trans attempts, counted.1.trans kept.1, counted.2.trans kept.2⟩

/-- Everything a step can do that is seen from outside: to put at most one question, or to hand on
one notification. -/
theorem next_cases (engine : Engine NodeState SinkState) (moment : Moment NodeState SinkState) :
    (moment.scan.HoldsBack (engine.next moment).scan ∧
        ∃ made, (engine.next moment).scan.calls = moment.scan.calls ++ made ∧ made.length ≤ 1) ∨
      ∃ range notification rest, moment.stage = .handing range (notification :: rest) ∧
        (engine.next moment).scan.attempts = moment.scan.attempts ++ [notification] ∧
          (engine.next moment).scan.calls = moment.scan.calls := by
  rcases moment with ⟨stage, scan⟩
  have idle : scan.HoldsBack scan ∧ ∃ made, scan.calls = scan.calls ++ made ∧ made.length ≤ 1 :=
    ⟨Scan.HoldsBack.refl scan, [], (List.append_nil _).symm, Nat.zero_le _⟩
  match stage with
  | .placing =>
    left
    rw [next]
    split
    · exact idle
    · obtain ⟨cursor, kept, calls⟩ := engine.place_kept scan
      exact ⟨kept.holdsBack, [.tip], calls, Nat.le_refl _⟩
  | .resting =>
    left
    rw [next]
    split
    · exact idle
    · obtain ⟨cursor, kept, calls⟩ := engine.begin_kept scan
      exact ⟨kept.holdsBack, [.tip], calls, Nat.le_refl _⟩
  | .asking range [] found =>
    left
    obtain ⟨held, calls⟩ := engine.close_holdsBack range found scan
    exact ⟨held, [], calls.trans (List.append_nil _).symm, Nat.zero_le _⟩
  | .asking range (contract :: rest) found =>
    left
    obtain ⟨kept, asked, isPrefix, calls, -⟩ := engine.collect_cases range [contract] scan
    obtain ⟨behind, sameCalls⟩ :=
      Moment.behindAsking_kept range rest found (engine.collect range [contract] scan)
    refine ⟨(kept.trans behind).holdsBack, _, sameCalls.trans calls, ?_⟩
    rw [List.length_map]
    exact isPrefix.length_le
  | .handing range [] => exact Or.inl idle
  | .handing range (notification :: rest) =>
    obtain ⟨attempts, -, calls⟩ := engine.handOne_calls range notification rest scan
    exact Or.inr ⟨range, notification, rest, rfl, attempts, calls⟩
  | .ended result => exact Or.inl idle

/-- What was asked and handed on stays so. -/
theorem Leads.grows {one other : Moment NodeState SinkState} (leads : engine.Leads one other) :
    one.scan.calls <+: other.scan.calls ∧ one.scan.attempts <+: other.scan.attempts := by
  refine leads.keeps (fun moment => one.scan.calls <+: moment.scan.calls ∧
    one.scan.attempts <+: moment.scan.attempts) ?_ ⟨List.prefix_rfl, List.prefix_rfl⟩
  rintro moment ⟨calls, attempts⟩
  rcases engine.next_cases moment with ⟨held, made, asked, -⟩ | ⟨-, _, _, -, handed, asked⟩
  · rw [asked, held.attempts]
    exact ⟨calls.trans (List.prefix_append _ _), attempts⟩
  · rw [asked, handed]
    exact ⟨calls, attempts.trans (List.prefix_append _ _)⟩

/-! ### The span in hand -/

/-- Some contracts have been asked about a span, after nothing but the newest block. -/
def HasAsked (scan : Scan NodeState SinkState) (range : BlockRange) (asked : List Monitored) :
    Prop :=
  ∃ before, scan.calls = before ++ .tip :: asked.map fun contract => .logs (contract.query range)

/-- What is known of the span in hand. While the contracts are asked about it, it is the next one,
and those that are not left have been asked; while its notifications are handed on, it has been
committed, and all contracts have been asked. -/
def KeepsSpan (engine : Engine NodeState SinkState) (moment : Moment NodeState SinkState) : Prop :=
  match moment.stage with
  | .asking range rest _ =>
    moment.scan.cursor.next = .ok range.first ∧
      ∃ asked, asked ++ rest = engine.contracts ∧ HasAsked moment.scan range asked
  | .handing range _ =>
    moment.scan.cursor.lastCommitted? = some range.last ∧
      HasAsked moment.scan range engine.contracts
  | _ => True

theorem keepsSpan_behind {Value : Type} {outcome : Except Fault Value × Scan NodeState SinkState} :
    engine.KeepsSpan (.behind .resting outcome) := by
  rcases outcome with ⟨result, scan⟩
  cases result <;> trivial

theorem keepsSpan_place (engine : Engine NodeState SinkState) (scan : Scan NodeState SinkState) :
    engine.KeepsSpan (engine.place scan) := by
  unfold place
  split
  · split <;> trivial
  · split <;> trivial

theorem keepsSpan_begin (engine : Engine NodeState SinkState) (scan : Scan NodeState SinkState) :
    engine.KeepsSpan (engine.begin scan) := by
  unfold begin
  rcases told : engine.askTip scan.begun with ⟨result, asked⟩
  cases result with
  | error fault => exact keepsSpan_behind
  | ok tip =>
    dsimp only
    rcases placed : engine.anchor tip asked with ⟨result, anchored⟩
    obtain ⟨-, -, calls⟩ := goesOnAt_of_anchor told placed
    cases result with
    | error fault => trivial
    | ok _ =>
      dsimp only
      split
      · rename_i range handed
        exact ⟨(Cursor.next_of_nextRange handed).1, [], rfl, scan.calls, calls⟩
      · exact keepsSpan_behind

/-- The span that was handed out can be committed. -/
theorem close_eq {range : BlockRange} {scan : Scan NodeState SinkState} (found : List Found)
    (isNext : scan.cursor.next = .ok range.first) :
    engine.close range found scan =
      ⟨.handing range (engine.notifications found scan).1, engine.movedPast range found scan⟩ := by
  have committed : (engine.notifications found scan).2.cursor.commit range =
      .ok { scan.cursor with lastCommitted? := some range.last } := Cursor.commit_of_next isNext
  unfold movedPast
  rw [close]
  rcases built : engine.notifications found scan with ⟨notifications, read⟩
  rw [built] at committed
  simp only [committed]

theorem keepsSpan_close {range : BlockRange} {found : List Found}
    {scan : Scan NodeState SinkState} (isNext : scan.cursor.next = .ok range.first)
    (asked : HasAsked scan range engine.contracts) :
    engine.KeepsSpan (engine.close range found scan) := by
  rw [close_eq found isNext]
  exact ⟨rfl, asked⟩

theorem keepsSpan_handOne {range : BlockRange} {notification : Notification}
    {rest : List Notification} {scan : Scan NodeState SinkState}
    (committed : scan.cursor.lastCommitted? = some range.last)
    (asked : HasAsked scan range engine.contracts) :
    engine.KeepsSpan (engine.handOne range notification rest scan) := by
  obtain ⟨-, cursor, calls⟩ := engine.handOne_calls range notification rest scan
  have still : (engine.handOne range notification rest scan).scan.cursor.lastCommitted? =
      some range.last := by
    rw [cursor]
    exact committed
  have stillAsked : HasAsked (engine.handOne range notification rest scan).scan range
      engine.contracts := by
    rw [HasAsked, calls]
    exact asked
  revert still stillAsked
  unfold handOne
  rcases engine.hand notification scan with ⟨result, handed⟩
  cases result with
  | error fault => exact fun _ _ => trivial
  | ok _ =>
    dsimp only
    split
    · exact fun _ _ => trivial
    · exact fun still stillAsked => ⟨still, stillAsked⟩

/-- What is found at all contracts was asked of each of them once, in their order. -/
theorem calls_of_collect {range : BlockRange} {contracts : List Monitored} {found : List Found}
    {scan after : Scan NodeState SinkState}
    (collects : engine.collect range contracts scan = (.ok (some found), after)) :
    scan.Kept after ∧
      after.calls = scan.calls ++ contracts.map fun contract => .logs (contract.query range) := by
  obtain ⟨kept, asked, -, calls, ⟨_, -, all⟩ | ⟨fault, stops⟩⟩ :=
    engine.collect_cases range contracts scan
  · rw [collects] at kept calls
    rw [all] at calls
    exact ⟨kept, calls⟩
  · have ended := collect_of_stops stops
    rw [collects] at ended
    obtain ⟨kind, message⟩ := fault
    cases kind <;> cases ended

theorem keepsSpan_asking {range : BlockRange} {contract : Monitored} {rest asked : List Monitored}
    {scan : Scan NodeState SinkState} (found : List Found)
    (isNext : scan.cursor.next = .ok range.first)
    (whole : asked ++ contract :: rest = engine.contracts) (hasAsked : HasAsked scan range asked) :
    engine.KeepsSpan (.behindAsking range rest found (engine.collect range [contract] scan)) := by
  rcases collects : engine.collect range [contract] scan with ⟨result, after⟩
  match result with
  | .error fault => trivial
  | .ok none => trivial
  | .ok (some more) =>
    obtain ⟨kept, calls⟩ := calls_of_collect collects
    obtain ⟨before, soFar⟩ := hasAsked
    have stillNext : after.cursor.next = .ok range.first := by
      rw [kept.cursor]
      exact isNext
    have alsoAsked : HasAsked after range (asked ++ [contract]) := by
      refine ⟨before, ?_⟩
      rw [calls, soFar, List.map_append, List.append_assoc]
      rfl
    have stillWhole : asked ++ [contract] ++ rest = engine.contracts := by
      rw [List.append_assoc]
      exact whole
    exact ⟨stillNext, asked ++ [contract], stillWhole, alsoAsked⟩

/-- Every step keeps the span in hand: it is the next one while contracts are asked, and the
committed one while notifications are handed on. -/
theorem KeepsSpan.next {moment : Moment NodeState SinkState} (keeps : engine.KeepsSpan moment) :
    engine.KeepsSpan (engine.next moment) := by
  rcases moment with ⟨stage, scan⟩
  match stage with
  | .placing =>
    rw [Engine.next]
    split
    · trivial
    · exact engine.keepsSpan_place scan
  | .resting =>
    rw [Engine.next]
    split
    · trivial
    · exact engine.keepsSpan_begin scan
  | .asking range [] found =>
    obtain ⟨isNext, asked, all, hasAsked⟩ := keeps
    obtain rfl : asked = engine.contracts := (List.append_nil asked).symm.trans all
    exact keepsSpan_close isNext hasAsked
  | .asking range (contract :: rest) found =>
    obtain ⟨isNext, asked, whole, hasAsked⟩ := keeps
    exact keepsSpan_asking found isNext whole hasAsked
  | .handing range [] => trivial
  | .handing range (notification :: rest) => exact keepsSpan_handOne keeps.1 keeps.2
  | .ended result => trivial

/-- At every moment of a run the span in hand is kept. -/
theorem Passes.keepsSpan {scan : Scan NodeState SinkState} {moment : Moment NodeState SinkState}
    (passes : engine.Passes scan moment) : engine.KeepsSpan moment :=
  Leads.keeps passes engine.KeepsSpan (fun _ keeps => keeps.next) trivial

end Engine

end BallotWatch
