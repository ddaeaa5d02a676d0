/-
This file compares two ticks from one state, over nodes that answer with the same entries in
another order, and with the kinds of contracts selected in another order. As long as no layout
breaks on an entry, both do the same. Where one breaks, neither returns a list, and only the counts
of the entries that were read before it can differ.
-/

import BallotWatch.Proofs.Scan.Replies

namespace BallotWatch

variable {NodeState OtherState SinkState : Type}

/-! ### Scans that agree -/

namespace Scan

/-- Two scans over nodes of their own agree: they differ in the nodes and the records only, and in
what the view of the counters hides. -/
structure Agrees (view : Counters → Counters) (one : Scan NodeState SinkState)
    (other : Scan OtherState SinkState) : Prop where
  sink : other.sink = one.sink
  clock : other.clock = one.clock
  cursor : other.cursor = one.cursor
  counters : view other.counters = view one.counters
  limitReached : other.limitReached = one.limitReached
  calls : other.calls = one.calls
  attempts : other.attempts = one.attempts

/-- Two outcomes agree: their results are the same, and their scans agree. -/
def AgreesWith {Value : Type} (outcome : Value × Scan NodeState SinkState)
    (other : Value × Scan OtherState SinkState) : Prop :=
  other.1 = outcome.1 ∧ outcome.2.Agrees id other.2

variable {view : Counters → Counters} {one after : Scan NodeState SinkState}
  {other otherAfter : Scan OtherState SinkState}

/-- Scans that agree still do after steps that keep them, if the calls and the counts in view are
alike. -/
theorem Agrees.of_kept (agrees : one.Agrees view other) (kept : one.Kept after)
    (alsoKept : other.Kept otherAfter) (calls : otherAfter.calls = after.calls)
    (counters : view otherAfter.counters = view after.counters) :
    after.Agrees view otherAfter where
  sink := alsoKept.sink.trans (agrees.sink.trans kept.sink.symm)
  clock := alsoKept.clock.trans (agrees.clock.trans kept.clock.symm)
  cursor := alsoKept.cursor.trans (agrees.cursor.trans kept.cursor.symm)
  counters := counters
  limitReached := alsoKept.limitReached.trans (agrees.limitReached.trans kept.limitReached.symm)
  calls := calls
  attempts := alsoKept.attempts.trans (agrees.attempts.trans kept.attempts.symm)

/-- Scans whose counters are the same agree in whatever view. -/
theorem Agrees.hide (agrees : one.Agrees id other) (view : Counters → Counters) :
    one.Agrees view other :=
  { agrees with counters := congrArg view agrees.counters }

theorem Agrees.note (agrees : one.Agrees view other) (level : Journal.Level)
    (text otherText : String) : (one.note level text).Agrees view (other.note level otherText) :=
  ⟨agrees.sink, agrees.clock, agrees.cursor, agrees.counters, agrees.limitReached, agrees.calls,
    agrees.attempts⟩

theorem Agrees.count (agrees : one.Agrees id other) (change : Counters → Counters) :
    (one.count change).Agrees id (other.count change) :=
  ⟨agrees.sink, agrees.clock, agrees.cursor, congrArg change agrees.counters, agrees.limitReached,
    agrees.calls, agrees.attempts⟩

theorem Agrees.fail (agrees : one.Agrees id other) {level : Journal.Level}
    {text otherText : String} :
    (one.note level text).countFailure.Agrees id (other.note level otherText).countFailure :=
  (agrees.note level text otherText).count _

end Scan

/-! ### Replies in another order -/

namespace Answer

/-- Two answers of one contract have the same entries, in whatever order. -/
structure IsRearranged (answer other : Answer) : Prop where
  contract : other.contract = answer.contract
  entries : other.entries.Perm answer.entries

variable {answer other : Answer} (rearranged : answer.IsRearranged other)

include rearranged in
theorem IsRearranged.found : other.found.Perm answer.found := by
  unfold Answer.found
  rw [rearranged.contract]
  exact rearranged.entries.filterMap _

include rearranged in
/-- Whether a layout breaks on an answer does not depend on the order of its entries. -/
theorem IsRearranged.breaks_iff : other.Breaks ↔ answer.Breaks := by
  unfold Breaks
  rw [rearranged.contract]
  constructor
  · rintro ⟨entry, member, breaks⟩
    exact ⟨entry, rearranged.entries.mem_iff.mp member, breaks⟩
  · rintro ⟨entry, member, breaks⟩
    exact ⟨entry, rearranged.entries.mem_iff.mpr member, breaks⟩

include rearranged in
theorem IsRearranged.withAnswers (counters : Counters) :
    counters.withAnswers [other] = counters.withAnswers [answer] := by
  have entries := rearranged.entries.length_eq
  have found := rearranged.found.length_eq
  have skipped : other.skipped = answer.skipped := by
    unfold Answer.skipped
    rw [rearranged.contract]
    exact rearranged.entries.countP_eq _
  simp only [Counters.withAnswers, List.flatMap_singleton, List.map_singleton, List.sum_singleton,
    entries, found, skipped]

/-- The places of the ballots are places of the entries. -/
theorem positions_found (answer : Answer) :
    (answer.found.map fun item => item.entry.position).Sublist
      (answer.entries.map LogEntry.position) := by
  rw [Answer.found]
  induction answer.entries with
  | nil => exact List.Sublist.refl _
  | cons entry rest inductionHypothesis =>
    cases present : answer.contract.layout.found? entry with
    | none =>
      rw [List.filterMap_cons_none present]
      exact inductionHypothesis.cons _
    | some item =>
      rw [List.filterMap_cons_some present, List.map_cons, List.map_cons,
        (Layout.found?_eq_some.mp present).1]
      exact inductionHypothesis.cons_cons _

end Answer

/-- Replies are the same but for the order of the entries in each answer. -/
structure AreRearranged (replies others : List Answer × Option Fault) : Prop where
  answers : List.Forall₂ Answer.IsRearranged replies.1 others.1
  refusal : others.2 = replies.2

namespace AreRearranged

variable {answers others : List Answer} (alike : List.Forall₂ Answer.IsRearranged answers others)

include alike in
theorem found : (others.flatMap Answer.found).Perm (answers.flatMap Answer.found) := by
  induction alike with
  | nil => exact List.Perm.refl _
  | cons same _ inductionHypothesis =>
    rw [List.flatMap_cons, List.flatMap_cons]
    exact same.found.append inductionHypothesis

include alike in
theorem breaks_iff : (∃ answer ∈ others, answer.Breaks) ↔ ∃ answer ∈ answers, answer.Breaks := by
  induction alike with
  | nil => exact Iff.rfl
  | cons same _ inductionHypothesis =>
    simp only [List.mem_cons, exists_eq_or_imp, same.breaks_iff, inductionHypothesis]

include alike in
theorem withAnswers (counters : Counters) :
    counters.withAnswers others = counters.withAnswers answers := by
  induction alike generalizing counters with
  | nil => rfl
  | cons same _ inductionHypothesis =>
    rw [Counters.withAnswers_cons, same.withAnswers, inductionHypothesis,
      ← Counters.withAnswers_cons]

theorem positions_found (answers : List Answer) :
    ((answers.flatMap Answer.found).map fun item => item.entry.position).Sublist
      ((answers.flatMap Answer.entries).map LogEntry.position) := by
  induction answers with
  | nil => exact List.Sublist.refl _
  | cons answer rest inductionHypothesis =>
    rw [List.flatMap_cons, List.flatMap_cons, List.map_append, List.map_append]
    exact answer.positions_found.append inductionHypothesis

end AreRearranged

namespace Engine

/-- An engine over another node, with kinds of contracts in place of its own. -/
def withNode (engine : Engine NodeState SinkState) (kinds : List ContractKind)
    (node : NodeAccess OtherState) : Engine OtherState SinkState :=
  ⟨{ engine.config with kinds }, engine.contracts, node, engine.sink⟩

variable {engine : Engine NodeState SinkState} {kinds : List ContractKind}
  {node : NodeAccess OtherState}
  {one : Scan NodeState SinkState} {other : Scan OtherState SinkState} {range : BlockRange}

/-! ### Asking -/

/-- The calls and the counters that do not depend on the order in which entries are read. -/
structure CountsAlike (one : Scan NodeState SinkState) (other : Scan OtherState SinkState) :
    Prop where
  calls : other.calls = one.calls
  counters : other.counters.besidesReading = one.counters.besidesReading

theorem CountsAlike.received {entries others : List LogEntry} (alike : CountsAlike one other)
    (perm : others.Perm entries) : CountsAlike (one.received entries) (other.received others) where
  calls := alike.calls
  counters := by
    have same : (fun counters : Counters =>
        { counters with totalLogs := counters.totalLogs + others.length }) =
        fun counters : Counters =>
          { counters with totalLogs := counters.totalLogs + entries.length } := by
      rw [perm.length_eq]
    exact congrArg₂ (· ·) same alike.counters

/-- Decoding in whatever order changes no counts but those of what was read. -/
theorem CountsAlike.decoded (alike : CountsAlike one other) (layout : Layout)
    (entries others : List LogEntry) :
    CountsAlike (decodeEntries layout entries one).2 (decodeEntries layout others other).2 where
  calls := by
    rw [(decodeEntries_kept layout entries one).2, (decodeEntries_kept layout others other).2]
    exact alike.calls
  counters := by
    rw [decodeEntries_besidesReading, decodeEntries_besidesReading]
    exact alike.counters

/-- A contract whose answer is rearranged refuses both times or answers both times, and the replies
of the others are rearranged. -/
theorem asks_of_rearranged {contract : Monitored} {rest : List Monitored}
    {asked : Scan NodeState SinkState} {otherAsked : Scan OtherState SinkState}
    {result otherResult : Except Fault (List LogEntry)}
    (asks : engine.askLogs (contract.query range) one = (result, asked))
    (alsoAsks : (engine.withNode kinds node).askLogs (contract.query range) other =
      (otherResult, otherAsked))
    (rearranged : AreRearranged (engine.replies range (contract :: rest) one.node)
      ((engine.withNode kinds node).replies range (contract :: rest) other.node)) :
    (∃ fault otherFault, result = .error fault ∧ otherResult = .error otherFault) ∨
      ∃ entries others, result = .ok entries ∧ otherResult = .ok others ∧
        (Answer.mk contract entries).IsRearranged ⟨contract, others⟩ ∧
          AreRearranged (engine.replies range rest asked.node)
            ((engine.withNode kinds node).replies range rest otherAsked.node) := by
  obtain ⟨answers, refusal⟩ := rearranged
  cases result with
  | error fault =>
    rw [replies_of_refused asks rest] at answers refusal
    cases otherResult with
    | error otherFault => exact .inl ⟨fault, otherFault, rfl, rfl⟩
    | ok others =>
      rw [replies_of_answered alsoAsks rest] at answers refusal
      cases answers
  | ok entries =>
    rw [replies_of_answered asks rest] at answers refusal
    cases otherResult with
    | error otherFault =>
      rw [replies_of_refused alsoAsks rest] at answers refusal
      cases answers
    | ok others =>
      rw [replies_of_answered alsoAsks rest] at answers refusal
      obtain ⟨same, later⟩ := List.forall₂_cons.mp answers
      exact .inr ⟨entries, others, rfl, rfl, same, later, refusal⟩

/-- Rearranged entries are read both times, or the layout breaks on one of them both times. -/
theorem decodeEntries_of_rearranged {contract : Monitored} {entries others : List LogEntry}
    (same : (Answer.mk contract entries).IsRearranged ⟨contract, others⟩)
    (one : Scan NodeState SinkState) (other : Scan OtherState SinkState) :
    (∃ fault otherFault, (decodeEntries contract.layout entries one).1 = .error fault ∧
        (decodeEntries contract.layout others other).1 = .error otherFault) ∨
      ∃ found otherFound, (decodeEntries contract.layout entries one).1 = .ok found ∧
        (decodeEntries contract.layout others other).1 = .ok otherFound := by
  by_cases breaks : (Answer.mk contract entries).Breaks
  · obtain ⟨-, -, -, reason, -, unread⟩ := decodeEntries_of_breaks breaks one
    obtain ⟨-, -, -, otherReason, -, otherUnread⟩ :=
      decodeEntries_of_breaks (same.breaks_iff.mpr breaks) other
    exact .inl ⟨_, _, unread, otherUnread⟩
  · have unbroken : ∀ entry ∈ entries, ¬contract.layout.Breaks entry :=
      fun entry member breaking => breaks ⟨entry, member, breaking⟩
    have otherUnbroken : ∀ entry ∈ others, ¬contract.layout.Breaks entry :=
      fun entry member breaking => breaks (same.breaks_iff.mp ⟨entry, member, breaking⟩)
    exact .inr ⟨_, _, (decodeEntries_of_unbroken unbroken one).1,
      (decodeEntries_of_unbroken otherUnbroken other).1⟩

/-- What is asked and what is counted besides the reading does not depend on the order of the
entries. -/
theorem collect_of_rearranged {contracts : List Monitored} (alike : CountsAlike one other)
    (rearranged : AreRearranged (engine.replies range contracts one.node)
      ((engine.withNode kinds node).replies range contracts other.node)) :
    CountsAlike (engine.collect range contracts one).2
      ((engine.withNode kinds node).collect range contracts other).2 := by
  induction contracts generalizing one other with
  | nil => exact alike
  | cons contract rest inductionHypothesis =>
    have asking : CountsAlike (engine.askLogs (contract.query range) one).2
        ((engine.withNode kinds node).askLogs (contract.query range) other).2 :=
      ⟨congrArg (fun calls => calls ++ [Call.logs (contract.query range)]) alike.calls,
        alike.counters⟩
    rcases asks : engine.askLogs (contract.query range) one with ⟨result, asked⟩
    rcases alsoAsks : (engine.withNode kinds node).askLogs (contract.query range) other
      with ⟨otherResult, otherAsked⟩
    rw [asks, alsoAsks] at asking
    rcases asks_of_rearranged asks alsoAsks rearranged with
      ⟨fault, otherFault, rfl, rfl⟩ | ⟨entries, others, rfl, rfl, same, later⟩
    · refine ⟨?_, ?_⟩
      · rw [(collect_of_refused asks rest).2.2, (collect_of_refused alsoAsks rest).2.2]
        exact asking.calls
      · rw [counters_of_refused asks rest, counters_of_refused alsoAsks rest]
        exact alike.counters
    · have read := (asking.received same.entries).decoded contract.layout entries others
      have node := (decodeEntries_node contract.layout entries (asked.received entries)).1
      have otherNode := (decodeEntries_node contract.layout others (otherAsked.received others)).1
      rcases decodeEntries_of_rearranged same (asked.received entries) (otherAsked.received others)
        with ⟨_, _, unread, otherUnread⟩ | ⟨_, _, found, otherFound⟩
      · rw [collect_of_unread asks (Prod.ext unread rfl) rest,
          collect_of_unread alsoAsks (Prod.ext otherUnread rfl) rest]
        exact read
      · rw [collect_of_read asks (Prod.ext found rfl) rest,
          collect_of_read alsoAsks (Prod.ext otherFound rfl) rest]
        refine inductionHypothesis read ?_
        rw [node, otherNode]
        exact later

/-! ### Handing on -/

section Handing

variable (engine kinds node) (agrees : one.Agrees id other)

include agrees in
theorem hand_of_agrees (notification : Notification) :
    Scan.AgreesWith (engine.hand notification one)
      ((engine.withNode kinds node).hand notification other) := by
  have same : (engine.withNode kinds node).sink notification other.sink =
      engine.sink notification one.sink := by
    rw [agrees.sink]
    rfl
  unfold hand
  rw [same]
  rcases engine.sink notification one.sink with ⟨⟨result, stop, records⟩, sink⟩
  have handed (stopped otherStopped : Bool) (journal otherJournal : List Journal.Record) :
      Scan.Agrees id
        { one with sink, stopped, journal, attempts := one.attempts ++ [notification] }
        { other with
          sink
          stopped := otherStopped
          journal := otherJournal
          attempts := other.attempts ++ [notification] } :=
    ⟨rfl, agrees.clock, agrees.cursor, agrees.counters, agrees.limitReached, agrees.calls,
      congrArg (· ++ [notification]) agrees.attempts⟩
  cases result with
  | ok _ => exact ⟨rfl, handed _ _ _ _⟩
  | error fault =>
    dsimp only
    by_cases undelivered : fault.kind = .dispatch
    · rw [if_pos undelivered, if_pos undelivered]
      exact ⟨rfl, ((handed _ _ _ _).count _).note _ _ _⟩
    · rw [if_neg undelivered, if_neg undelivered]
      exact ⟨rfl, handed _ _ _ _⟩

include agrees in
theorem countNotification_of_agrees :
    (engine.countNotification one).Agrees id
      ((engine.withNode kinds node).countNotification other) := by
  have notified : one.withNotified.Agrees id other.withNotified := agrees.count _
  have same : other.counters = one.counters := agrees.counters
  have sameLimit : (engine.withNode kinds node).config.limit? = engine.config.limit? := rfl
  rw [countNotification_eq, countNotification_eq, sameLimit, same]
  cases engine.config.limit? with
  | none => exact notified
  | some limit =>
    dsimp only
    split
    · exact ⟨notified.sink, notified.clock, notified.cursor, notified.counters, rfl, notified.calls,
        notified.attempts⟩
    · exact notified

include agrees in
theorem atLimit_of_agrees : (engine.withNode kinds node).atLimit other = engine.atLimit one := by
  have same : other.counters = one.counters := agrees.counters
  rw [atLimit, atLimit, same]
  rfl

include agrees in
/-- Scans that agree hand on alike. -/
theorem emit_of_agrees (notifications : List Notification) :
    Scan.AgreesWith (engine.emit notifications one)
      ((engine.withNode kinds node).emit notifications other) := by
  induction notifications generalizing one other with
  | nil => exact ⟨rfl, agrees⟩
  | cons notification rest inductionHypothesis =>
    obtain ⟨sameResult, agreesAfter⟩ := hand_of_agrees engine kinds node agrees notification
    rcases handed : engine.hand notification one with ⟨result, after⟩
    rcases alsoHanded : (engine.withNode kinds node).hand notification other
      with ⟨otherResult, otherAfter⟩
    rw [handed, alsoHanded] at sameResult agreesAfter
    obtain rfl : otherResult = result := sameResult
    cases otherResult with
    | error fault =>
      rw [emit_of_fault handed, emit_of_fault alsoHanded]
      exact ⟨rfl, agreesAfter⟩
    | ok _ =>
      have counted := countNotification_of_agrees engine kinds node agreesAfter
      rw [emit_of_handed handed, emit_of_handed alsoHanded,
        atLimit_of_agrees engine kinds node counted]
      split
      · exact ⟨rfl, counted⟩
      · exact inductionHypothesis counted

/-- Ballots at different places are committed and handed on in one order, in whatever order they
were found. -/
theorem finish_of_agrees {found others : List Found}
    (isNext : one.cursor.next = .ok range.first) (perm : others.Perm found)
    (apart : (found.map fun item => item.entry.position).Nodup) (agrees : one.Agrees id other) :
    Scan.AgreesWith (engine.finish range found one)
      ((engine.withNode kinds node).finish range others other) := by
  have otherIsNext : other.cursor.next = .ok range.first := by
    rw [agrees.cursor]
    exact isNext
  have sameOrder : sortByPosition (fun item : Found => item.entry.position) others =
      sortByPosition (fun item => item.entry.position) found :=
    sortByPosition_eq_of_perm perm apart
  have same : ((engine.withNode kinds node).notifications others other).1 =
      (engine.notifications found one).1 := by
    rw [notifications, notifications, sameOrder, agrees.clock]
    rfl
  have moved : (engine.movedPast range found one).Agrees id
      ((engine.withNode kinds node).movedPast range others other) :=
    ⟨agrees.sink, congrArg Clock.afterReading agrees.clock,
      congrArg (fun cursor => { cursor with lastCommitted? := some range.last }) agrees.cursor,
      congrArg (fun counters : Counters =>
        { counters with rangesCommitted := counters.rangesCommitted + 1 }) agrees.counters,
      agrees.limitReached, agrees.calls, agrees.attempts⟩
  rw [finish_eq _ found isNext, finish_eq _ others otherIsNext, same]
  obtain ⟨sameResult, agreesAfter⟩ :=
    emit_of_agrees engine kinds node moved (engine.notifications found one).1
  rw [sameResult]
  exact ⟨rfl, agreesAfter⟩

end Handing

/-! ### Coming to ask -/

section Coming

variable (engine kinds node) (agrees : one.Agrees id other)

include agrees in
theorem askTip_of_agrees
    (sameTip : (node.tip other.node).1.result = (engine.node.tip one.node).1.result) :
    Scan.AgreesWith (engine.askTip one.begun)
      ((engine.withNode kinds node).askTip other.begun) := by
  have begun : one.begun.Agrees id other.begun := agrees.count _
  exact ⟨sameTip, begun.sink, begun.clock, begun.cursor, begun.counters, begun.limitReached,
    congrArg (· ++ [Call.tip]) begun.calls, begun.attempts⟩

include agrees in
theorem anchor_of_agrees (tip : Int) :
    Scan.AgreesWith (engine.anchor tip one) ((engine.withNode kinds node).anchor tip other) := by
  have sameStart : (engine.withNode kinds node).config.start = engine.config.start := rfl
  unfold anchor
  rw [agrees.cursor, sameStart]
  split
  · exact ⟨rfl, agrees⟩
  · split
    · exact ⟨rfl, agrees⟩
    · exact ⟨rfl, agrees.sink, agrees.clock, rfl, agrees.counters, agrees.limitReached,
        agrees.calls, agrees.attempts⟩

include agrees in
/-- Without a span in hand, two ticks end alike. -/
theorem advance_of_agrees {tip : Int}
    (nothing : ∀ range, one.cursor.nextRange tip ≠ .ok (some range)) :
    Scan.AgreesWith (engine.advance tip one) ((engine.withNode kinds node).advance tip other) := by
  have sameCursor := agrees.cursor
  cases handed : one.cursor.nextRange tip with
  | error reason =>
    rw [advance_of_error handed, advance_of_error (sameCursor ▸ handed)]
    exact ⟨rfl, agrees⟩
  | ok range? =>
    cases range? with
    | some range => exact absurd handed (nothing range)
    | none =>
      rw [advance, advance, sameCursor, handed]
      exact ⟨rfl, agrees.note _ _ _⟩

end Coming

/-- Ticks that are not told the newest block end alike. -/
theorem tick_of_silent_agrees {fault : Fault} {asked : Scan NodeState SinkState}
    {otherAsked : Scan OtherState SinkState}
    (silent : engine.askTip one.begun = (.error fault, asked))
    (alsoSilent : (engine.withNode kinds node).askTip other.begun = (.error fault, otherAsked))
    (asking : asked.Agrees id otherAsked) :
    Scan.AgreesWith (engine.tick one) ((engine.withNode kinds node).tick other) := by
  unfold Scan.begun at silent alsoSilent
  rw [tick, tick, silent, alsoSilent]
  obtain ⟨kind, message⟩ := fault
  cases kind
  case network => exact ⟨rfl, asking.fail⟩
  case rpc => exact ⟨rfl, asking.fail⟩
  all_goals exact ⟨rfl, asking⟩

/-- From agreeing scans two ticks that are told the same newest block end alike without asking the
contracts, or come to ask them about the same span. -/
theorem tick_of_agrees (agrees : one.Agrees id other)
    (sameTip : (node.tip other.node).1.result = (engine.node.tip one.node).1.result) :
    (engine.repliesTo one = ([], none) ∧
        Scan.AgreesWith (engine.tick one) ((engine.withNode kinds node).tick other)) ∨
      ∃ tip range anchored otherAnchored, Scan.Agrees id anchored otherAnchored ∧
        anchored.cursor.nextRange tip = .ok (some range) ∧
          engine.tick one = engine.advance tip anchored ∧
            (engine.withNode kinds node).tick other =
                (engine.withNode kinds node).advance tip otherAnchored ∧
              engine.repliesTo one = engine.replies range engine.contracts anchored.node ∧
                (engine.withNode kinds node).repliesTo other =
                  (engine.withNode kinds node).replies range engine.contracts
                    otherAnchored.node := by
  obtain ⟨sameResult, asking⟩ := askTip_of_agrees engine kinds node agrees sameTip
  rcases told : engine.askTip one.begun with ⟨result, asked⟩
  rcases alsoTold : (engine.withNode kinds node).askTip other.begun with ⟨otherResult, otherAsked⟩
  rw [told, alsoTold] at sameResult asking
  obtain rfl : otherResult = result := sameResult
  cases otherResult with
  | error fault =>
    exact .inl ⟨repliesTo_of_silent told, tick_of_silent_agrees told alsoTold asking⟩
  | ok tip =>
    obtain ⟨sameResult, anchoring⟩ := anchor_of_agrees engine kinds node asking tip
    rcases placed : engine.anchor tip asked with ⟨result, anchored⟩
    rcases alsoPlaced : (engine.withNode kinds node).anchor tip otherAsked
      with ⟨otherResult, otherAnchored⟩
    rw [placed, alsoPlaced] at sameResult anchoring
    obtain rfl : otherResult = result := sameResult
    cases otherResult with
    | error fault =>
      rw [tick_of_unplaced told placed, tick_of_unplaced alsoTold alsoPlaced]
      exact .inl ⟨repliesTo_of_unplaced told placed, rfl, anchoring⟩
    | ok _ =>
      rw [tick_of_placed told placed, tick_of_placed alsoTold alsoPlaced]
      by_cases handed : ∃ range, anchored.cursor.nextRange tip = .ok (some range)
      · obtain ⟨range, handed⟩ := handed
        have alsoHanded : otherAnchored.cursor.nextRange tip = .ok (some range) := by
          rw [anchoring.cursor]
          exact handed
        exact .inr ⟨tip, range, anchored, otherAnchored, anchoring, handed, rfl, rfl,
          repliesTo_of_placed told placed handed,
          repliesTo_of_placed alsoTold alsoPlaced alsoHanded⟩
      · have nothing := not_exists.mp handed
        exact .inl ⟨repliesTo_of_nothing told placed nothing,
          advance_of_agrees engine kinds node anchoring nothing⟩

/-! ### Asking about one span -/

section Span

variable {tip : Int} (agrees : one.Agrees id other)
  (handed : one.cursor.nextRange tip = .ok (some range))
  (rearranged : AreRearranged (engine.replies range engine.contracts one.node)
    ((engine.withNode kinds node).replies range engine.contracts other.node))

include agrees rearranged in
theorem collect_of_agrees {view : Counters → Counters}
    (counters :
      view ((engine.withNode kinds node).collect range engine.contracts other).2.counters =
        view (engine.collect range engine.contracts one).2.counters) :
    (engine.collect range engine.contracts one).2.Agrees view
      ((engine.withNode kinds node).collect range engine.contracts other).2 :=
  (agrees.hide view).of_kept (engine.collect_cases range engine.contracts one).1
    ((engine.withNode kinds node).collect_cases range engine.contracts other).1
    (collect_of_rearranged
      ⟨agrees.calls, congrArg Counters.besidesReading agrees.counters⟩ rearranged).calls counters

include agrees handed rearranged in
/-- With the replies in another order, two ticks end alike unless a layout breaks. -/
theorem advance_of_rearranged
    (apart : (((engine.replies range engine.contracts one.node).1.flatMap Answer.entries).map
      LogEntry.position).Nodup)
    (unbroken : ∀ answer ∈ (engine.replies range engine.contracts one.node).1, ¬answer.Breaks) :
    Scan.AgreesWith (engine.advance tip one) ((engine.withNode kinds node).advance tip other) := by
  have alsoHanded : other.cursor.nextRange tip = .ok (some range) := by
    rw [agrees.cursor]
    exact handed
  have otherUnbroken : ∀ answer ∈
      ((engine.withNode kinds node).replies range engine.contracts other.node).1, ¬answer.Breaks :=
    fun answer member breaks =>
      let ⟨_, inAnswers, breaking⟩ :=
        (AreRearranged.breaks_iff rearranged.answers).mp ⟨answer, member, breaks⟩
      unbroken _ inAnswers breaking
  have collected : (engine.collect range engine.contracts one).2.Agrees id
      ((engine.withNode kinds node).collect range engine.contracts other).2 := by
    have same : other.counters = one.counters := agrees.counters
    refine collect_of_agrees agrees rearranged ?_
    rw [(collect_of_replies unbroken).2, (collect_of_replies otherUnbroken).2, same,
      AreRearranged.withAnswers rearranged.answers]
  cases refused : (engine.replies range engine.contracts one.node).2 with
  | none =>
    have places := apart.sublist (AreRearranged.positions_found _)
    have kept := (engine.collect_cases range engine.contracts one).1
    rw [advance_of_answers handed unbroken refused,
      advance_of_answers alsoHanded otherUnbroken (rearranged.refusal.trans refused)]
    exact finish_of_agrees engine kinds node (next_of_kept handed kept)
      (AreRearranged.found rearranged.answers) places collected
  | some fault =>
    have alsoRefused := rearranged.refusal.trans refused
    by_cases ofNode : fault.IsOfNode
    · rw [advance_of_refusal handed unbroken ofNode refused,
        advance_of_refusal alsoHanded otherUnbroken ofNode alsoRefused]
      exact ⟨rfl, collected.count fun counters =>
        { counters with failedTicks := counters.failedTicks + 1 }⟩
    · rw [advance_of_passedOn handed unbroken ofNode refused,
        advance_of_passedOn alsoHanded otherUnbroken ofNode alsoRefused]
      exact ⟨rfl, collected⟩

include agrees handed rearranged in
/-- Where a layout breaks, both ticks end with a fault. -/
theorem advance_of_rearranged_breaks
    (breaks : ∃ answer ∈ (engine.replies range engine.contracts one.node).1, answer.Breaks) :
    (∃ fault, (engine.advance tip one).1 = .error fault) ∧
      (∃ fault, ((engine.withNode kinds node).advance tip other).1 = .error fault) ∧
        (engine.advance tip one).2.Agrees Counters.besidesReading
          ((engine.withNode kinds node).advance tip other).2 := by
  have alsoHanded : other.cursor.nextRange tip = .ok (some range) := by
    rw [agrees.cursor]
    exact handed
  obtain ⟨fault, failed⟩ := collect_of_breaks breaks
  obtain ⟨otherFault, otherFailed⟩ :=
    collect_of_breaks ((AreRearranged.breaks_iff rearranged.answers).mpr breaks)
  have counted := collect_of_rearranged
    ⟨agrees.calls, congrArg Counters.besidesReading agrees.counters⟩ rearranged
  rw [advance_of_fault handed (Prod.ext failed rfl),
    advance_of_fault alsoHanded (Prod.ext otherFailed rfl)]
  exact ⟨⟨fault, rfl⟩, ⟨otherFault, rfl⟩, collect_of_agrees agrees rearranged counted.counters⟩

end Span

/-! ### Selections in another order -/

/-- The order in which kinds are selected and entries are answered does not matter. From agreeing
scans two ticks that get the same replies, only that the kinds are selected in another order or
several times and the entries of each answer come in another order, ask the same, return the same
list, hand on the same in the same order, and leave the same cursor and counters. The exception is
a tick in which a layout breaks on an entry: then both end with a fault, and only the counts of
decoded entries and of those left out may differ. -/
theorem tick_of_rearranged {config : WatchConfig} {registry : Registry}
    {asked : NodeAccess NodeState} {sink : Sink SinkState}
    (accepted : Engine.make config registry asked sink = .ok engine)
    (sameKinds : ∀ kind, kind ∈ kinds ↔ kind ∈ config.kinds) (node : NodeAccess OtherState) :
    ∃ rival, Engine.make { config with kinds } registry node sink = .ok rival ∧
      ∀ (one : Scan NodeState SinkState) (other : Scan OtherState SinkState),
        one.Agrees id other →
        (node.tip other.node).1.result = (asked.tip one.node).1.result →
        AreRearranged (engine.repliesTo one) (rival.repliesTo other) →
        (((engine.repliesTo one).1.flatMap Answer.entries).map LogEntry.position).Nodup →
        ((∀ answer ∈ (engine.repliesTo one).1, ¬answer.Breaks) →
            (rival.tick other).1 = (engine.tick one).1 ∧
              (engine.tick one).2.Agrees id (rival.tick other).2) ∧
          ((∃ answer ∈ (engine.repliesTo one).1, answer.Breaks) →
            (∃ fault, (engine.tick one).1 = .error fault) ∧
              (∃ fault, (rival.tick other).1 = .error fault) ∧
                (engine.tick one).2.Agrees Counters.besidesReading (rival.tick other).2) := by
  obtain ⟨rfl, rfl, rfl, contracts⟩ := make_eq_ok accepted
  refine ⟨engine.withNode kinds node, ?_, fun one other agrees sameTip rearranged apart => ?_⟩
  · rw [Engine.make, WatchConfig.contracts_of_same_kinds registry sameKinds, contracts]
    rfl
  · rcases tick_of_agrees agrees sameTip with ⟨nothing, agreeing⟩ |
      ⟨tip, range, anchored, otherAnchored, agreesThere, handed, ticks, alsoTicks, replied,
        alsoReplied⟩
    · refine ⟨fun _ => agreeing, ?_⟩
      rintro ⟨answer, member, -⟩
      rw [nothing] at member
      cases member
    · rw [replied, alsoReplied] at rearranged
      rw [replied] at apart ⊢
      rw [ticks, alsoTicks]
      exact ⟨advance_of_rearranged agreesThere handed rearranged apart,
        advance_of_rearranged_breaks agreesThere handed rearranged⟩

/-- Two ballots and another entry are answered from the last to the first, to a watch that selects
its kind twice. -/
theorem tick_of_rearranged_reversed :
    let ballot (block : Nat) : LogEntry :=
      ⟨"0x00", [thresholdContract.layout.topic], List.replicate 224 0, block, 0, ""⟩
    let entries := [ballot 3, ⟨"0x00", [], [], 4, 0, ""⟩, ballot 5]
    let node := NodeAccess.constant 7 fun _ => .ok entries
    let reversed := NodeAccess.constant 7 fun _ => .ok entries.reverse
    let sink : Sink Unit := fun _ state => ({}, state)
    let engine := ofThreshold node sink
    let config := { thresholdConfig with kinds := [.threshold, .threshold] }
    let fresh : Scan Nat Unit := { node := 3, sink := () }
    ∃ rival, Engine.make config Registry.standard reversed sink = .ok rival ∧
      AreRearranged (engine.repliesTo fresh) (rival.repliesTo fresh) ∧
        (rival.tick fresh).1 = (engine.tick fresh).1 ∧
          (engine.tick fresh).2.Agrees id (rival.tick fresh).2 ∧
            ((engine.repliesTo fresh).1.flatMap Answer.found).length = 2 := by
  intro ballot entries node reversed sink engine config fresh
  have sameKinds : ∀ kind, kind ∈ config.kinds ↔ kind ∈ thresholdConfig.kinds := by
    rintro (_ | _ | _ | _) <;> decide
  obtain ⟨rival, accepted, agree⟩ :=
    tick_of_rearranged (make_ofThreshold node sink) sameKinds reversed
  have known : Engine.make config Registry.standard reversed sink =
      .ok ⟨config, [thresholdContract], reversed, sink⟩ := by
    have contracts : config.contracts Registry.standard = .ok [thresholdContract] :=
      (WatchConfig.contracts_of_same_kinds Registry.standard sameKinds).trans
        (WatchConfig.contracts_of_one rfl (by decide) (by decide) rfl (by decide))
    rw [Engine.make, contracts]
    rfl
  obtain rfl := Except.ok.inj (accepted.symm.trans known)
  have agrees : fresh.Agrees id fresh := ⟨rfl, rfl, rfl, rfl, rfl, rfl, rfl⟩
  have rearranged : AreRearranged ([⟨thresholdContract, entries⟩], none)
      ([⟨thresholdContract, entries.reverse⟩], none) :=
    ⟨.cons ⟨rfl, List.reverse_perm entries⟩ .nil, rfl⟩
  have apart : (entries.map LogEntry.position).Nodup := by decide +kernel
  have writable : ∀ entry ∈ entries, entry.position.IsWritable := by decide +kernel
  have unbroken : ¬(Answer.mk thresholdContract entries).Breaks := by
    rintro ⟨entry, member, breaks⟩
    have chokes := (Layout.breaks_iff_chokes known_thresholdContract).mp breaks
    exact chokes.2 (writable entry member)
  obtain ⟨sameResult, agreesAfter⟩ := (agree fresh fresh agrees rfl rearranged apart).1
    fun answer member => List.mem_singleton.mp member ▸ unbroken
  exact ⟨_, accepted, rearranged, sameResult, agreesAfter, by decide +kernel⟩

/-- Of two entries without topics one is at a block with too many digits. The other is left out if
it comes first, and it is not read if it comes last. -/
theorem counters_of_rearranged_unwritable :
    let block : Nat := 10 ^ Text.Numeral.digitLimit
    let far : LogEntry := ⟨"0x00", [], [], block, 0, ""⟩
    let near : LogEntry := ⟨"0x00", [], [], 5, 0, ""⟩
    let sink : Sink Unit := fun _ state => ({}, state)
    let engine := ofThreshold (NodeAccess.constant 7 fun _ => .ok [near, far]) sink
    let rival := ofThreshold (NodeAccess.constant 7 fun _ => .ok [far, near]) sink
    let fresh : Scan Nat Unit := { node := 3, sink := () }
    AreRearranged (engine.repliesTo fresh) (rival.repliesTo fresh) ∧
      (((engine.repliesTo fresh).1.flatMap Answer.entries).map LogEntry.position).Nodup ∧
        (engine.tick fresh).2.counters = ⟨1, 0, 0, 2, 0, 1, 0, 0⟩ ∧
          (rival.tick fresh).2.counters = ⟨1, 0, 0, 2, 0, 0, 0, 0⟩ := by
  intro block far near sink engine rival fresh
  have unwritable : ¬Text.Numeral.isWritable block = true :=
    Text.Numeral.not_isWritable_of_le (Nat.le_refl block)
  have writable : Position.IsWritable ⟨5, 0⟩ := by decide +kernel
  have apart : block ≠ 5 := fun same => unwritable (same ▸ writable.1)
  -- From here on the block is a name only, so that nothing tries to compute its digits.
  clear_value block
  have chokes : thresholdContract.layout.Chokes far :=
    ⟨Layout.not_hasTopic_of_no_topics rfl, fun writable => unwritable writable.1⟩
  obtain ⟨reason, refused, ofEntry⟩ : ∃ reason,
      thresholdContract.layout.decode near = .error reason ∧ reason.isOfEntry = true := by
    rcases Layout.decode_cases known_thresholdContract near with
      ⟨ballot, decoded⟩ | ⟨reason, refused, ⟨-, ofEntry⟩ | ⟨chokes, -⟩⟩
    · exact absurd (Layout.hasTopic_of_decode decoded) (Layout.not_hasTopic_of_no_topics rfl)
    · exact ⟨reason, refused, ofEntry⟩
    · exact absurd writable chokes.2
  have collects (asked : Scan Nat Unit) :
      engine.collect ⟨0, 7, by decide, by decide⟩ engine.contracts asked =
        (.error .unwritable, ((engine.askLogs _ asked).2.received [near, far]).withSkipped _) :=
    collect_of_unread rfl
      ((decodeEntries_of_skipped refused ofEntry [far] _).trans
        (decodeEntries_of_choked known_thresholdContract chokes [] _)) []
  have rivalCollects (asked : Scan Nat Unit) :
      rival.collect ⟨0, 7, by decide, by decide⟩ rival.contracts asked =
        (.error .unwritable, (rival.askLogs _ asked).2.received [far, near]) :=
    collect_of_unread rfl (decodeEntries_of_choked known_thresholdContract chokes [near] _) []
  refine ⟨⟨.cons ⟨rfl, .swap near far []⟩ .nil, rfl⟩, ?_, ?_, ?_⟩
  · refine List.nodup_cons.mpr ⟨fun member => apart ?_, List.nodup_singleton _⟩
    exact (Int.ofNat.inj (congrArg Position.block (List.mem_singleton.mp member))).symm
  · rw [tick_of_placed rfl rfl, advance_of_fault rfl (collects _)]
    rfl
  · rw [tick_of_placed rfl rfl, advance_of_fault rfl (rivalCollects _)]
    rfl

end Engine

end BallotWatch
