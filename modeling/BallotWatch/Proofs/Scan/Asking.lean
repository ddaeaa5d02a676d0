/-
This file says what comes of asking the contracts. Until every contract has answered, a scan only
puts questions, counts and writes records: the sink, the clock, the place on the chain and what
was handed on stay as they are. The asking either ends with what was found at all contracts, or
stops with a fault at one.
-/

import BallotWatch.Scan.Engine

namespace BallotWatch

variable {NodeState SinkState : Type}

/-! ### What questions leave alone -/

/-- What a scan keeps as long as nothing is committed. -/
structure Scan.Kept (before after : Scan NodeState SinkState) : Prop where
  sink : after.sink = before.sink
  clock : after.clock = before.clock
  cursor : after.cursor = before.cursor
  attempts : after.attempts = before.attempts
  limitReached : after.limitReached = before.limitReached
  rangesCommitted : after.counters.rangesCommitted = before.counters.rangesCommitted
  notifications : after.counters.notifications = before.counters.notifications
  dispatchFailures : after.counters.dispatchFailures = before.counters.dispatchFailures

namespace Scan

theorem Kept.refl (scan : Scan NodeState SinkState) : scan.Kept scan :=
  ⟨rfl, rfl, rfl, rfl, rfl, rfl, rfl, rfl⟩

/-- What two steps keep one after the other is kept by both together. -/
theorem Kept.trans {first second third : Scan NodeState SinkState} (earlier : first.Kept second)
    (later : second.Kept third) : first.Kept third where
  sink := later.sink.trans earlier.sink
  clock := later.clock.trans earlier.clock
  cursor := later.cursor.trans earlier.cursor
  attempts := later.attempts.trans earlier.attempts
  limitReached := later.limitReached.trans earlier.limitReached
  rangesCommitted := later.rangesCommitted.trans earlier.rangesCommitted
  notifications := later.notifications.trans earlier.notifications
  dispatchFailures := later.dispatchFailures.trans earlier.dispatchFailures

/-- A scan whose tick has been counted. -/
def begun (scan : Scan NodeState SinkState) : Scan NodeState SinkState :=
  scan.count fun counters => { counters with ticks := counters.ticks + 1 }

/-- A scan whose new log entries have been counted. -/
def received (scan : Scan NodeState SinkState) (entries : List LogEntry) :
    Scan NodeState SinkState :=
  scan.count fun counters => { counters with totalLogs := counters.totalLogs + entries.length }

/-- A scan with one more entry decoded. -/
def withDecoded (scan : Scan NodeState SinkState) : Scan NodeState SinkState :=
  scan.count fun counters => { counters with decoded := counters.decoded + 1 }

/-- A scan with one more entry left out. -/
def withSkipped (scan : Scan NodeState SinkState) (text : String) : Scan NodeState SinkState :=
  (scan.note .error text).count fun counters =>
    { counters with skipped := counters.skipped + 1 }

theorem begun_kept (scan : Scan NodeState SinkState) : scan.Kept scan.begun :=
  ⟨rfl, rfl, rfl, rfl, rfl, rfl, rfl, rfl⟩

theorem received_kept (scan : Scan NodeState SinkState) (entries : List LogEntry) :
    scan.Kept (scan.received entries) :=
  ⟨rfl, rfl, rfl, rfl, rfl, rfl, rfl, rfl⟩

theorem withDecoded_kept (scan : Scan NodeState SinkState) : scan.Kept scan.withDecoded :=
  ⟨rfl, rfl, rfl, rfl, rfl, rfl, rfl, rfl⟩

theorem withSkipped_kept (scan : Scan NodeState SinkState) (text : String) :
    scan.Kept (scan.withSkipped text) :=
  ⟨rfl, rfl, rfl, rfl, rfl, rfl, rfl, rfl⟩

theorem note_kept (scan : Scan NodeState SinkState) (level : Journal.Level) (text : String) :
    scan.Kept (scan.note level text) :=
  ⟨rfl, rfl, rfl, rfl, rfl, rfl, rfl, rfl⟩

theorem countFailure_kept (scan : Scan NodeState SinkState) : scan.Kept scan.countFailure :=
  ⟨rfl, rfl, rfl, rfl, rfl, rfl, rfl, rfl⟩

end Scan

/-- The question put to a contract about a span of blocks. -/
def Monitored.query (contract : Monitored) (range : BlockRange) : Node.LogQuery :=
  ⟨contract.address, contract.layout.topic, range⟩

/-- What a fault leaves of a step: a fault of the network or of an answer only ends the tick, with
a value in place of the result, and any other is passed on. -/
def Fault.ending {Value : Type} (fault : Fault) (value : Value) : Except Fault Value :=
  match fault.kind with
  | .network | .rpc => .ok value
  | _ => .error fault

namespace Engine

variable (engine : Engine NodeState SinkState)

theorem askTip_kept (scan : Scan NodeState SinkState) : scan.Kept (engine.askTip scan).2 :=
  ⟨rfl, rfl, rfl, rfl, rfl, rfl, rfl, rfl⟩

theorem askLogs_kept (query : Node.LogQuery) (scan : Scan NodeState SinkState) :
    scan.Kept (engine.askLogs query scan).2 :=
  ⟨rfl, rfl, rfl, rfl, rfl, rfl, rfl, rfl⟩

/-! ### Decoding -/

section Decoding

variable {layout : Layout} {entry : LogEntry} {ballot : Ballot} {fault : DecodeFault}

theorem decodeEntries_of_ok (decoded : layout.decode entry = .ok ballot) (rest : List LogEntry)
    (scan : Scan NodeState SinkState) :
    decodeEntries layout (entry :: rest) scan =
      ((decodeEntries layout rest scan.withDecoded).1.map (⟨entry, ballot⟩ :: ·),
        (decodeEntries layout rest scan.withDecoded).2) := by
  rw [decodeEntries, decoded]
  rfl

theorem decodeEntries_of_skipped (refused : layout.decode entry = .error fault)
    (ofEntry : fault.isOfEntry = true) (rest : List LogEntry) (scan : Scan NodeState SinkState) :
    decodeEntries layout (entry :: rest) scan =
      decodeEntries layout rest (scan.withSkipped (skipText layout entry fault)) := by
  rw [decodeEntries, refused]
  exact if_pos ofEntry

theorem decodeEntries_of_fault (refused : layout.decode entry = .error fault)
    (notOfEntry : ¬fault.isOfEntry = true) (rest : List LogEntry)
    (scan : Scan NodeState SinkState) :
    decodeEntries layout (entry :: rest) scan = (.error fault.toFault, scan) := by
  rw [decodeEntries, refused]
  exact if_neg notOfEntry

end Decoding

/-- Decoding asks nothing, and keeps all but counts and records. -/
theorem decodeEntries_kept (layout : Layout) (entries : List LogEntry)
    (scan : Scan NodeState SinkState) :
    scan.Kept (decodeEntries layout entries scan).2 ∧
      (decodeEntries layout entries scan).2.calls = scan.calls := by
  induction entries generalizing scan with
  | nil => exact ⟨Scan.Kept.refl scan, rfl⟩
  | cons entry rest inductionHypothesis =>
    cases decoded : layout.decode entry with
    | ok ballot =>
      rw [decodeEntries_of_ok decoded]
      obtain ⟨kept, calls⟩ := inductionHypothesis scan.withDecoded
      exact ⟨scan.withDecoded_kept.trans kept, calls⟩
    | error fault =>
      by_cases ofEntry : fault.isOfEntry = true
      · rw [decodeEntries_of_skipped decoded ofEntry]
        obtain ⟨kept, calls⟩ := inductionHypothesis (scan.withSkipped (skipText layout entry fault))
        exact ⟨(scan.withSkipped_kept _).trans kept, calls⟩
      · rw [decodeEntries_of_fault decoded ofEntry]
        exact ⟨Scan.Kept.refl scan, rfl⟩

/-! ### Asking the contracts -/

/-- Asking contracts one after another stops with a fault at one of them: the node does not tell
its logs, or an entry of its cannot be read and is not to blame. -/
inductive Stops (range : BlockRange) :
    List Monitored → Scan NodeState SinkState → Fault → Prop
  | logs {contract : Monitored} {rest : List Monitored} {scan : Scan NodeState SinkState}
      {fault : Fault} (refused : (engine.askLogs (contract.query range) scan).1 = .error fault) :
      Stops range (contract :: rest) scan fault
  | entry {contract : Monitored} {rest : List Monitored}
      {scan asked : Scan NodeState SinkState} {entries : List LogEntry} {fault : Fault}
      (answered : engine.askLogs (contract.query range) scan = (.ok entries, asked))
      (unread : (decodeEntries contract.layout entries (asked.received entries)).1 =
        .error fault) :
      Stops range (contract :: rest) scan fault
  | later {contract : Monitored} {rest : List Monitored}
      {scan asked decoded : Scan NodeState SinkState} {entries : List LogEntry}
      {found : List Found} {fault : Fault}
      (answered : engine.askLogs (contract.query range) scan = (.ok entries, asked))
      (read : decodeEntries contract.layout entries (asked.received entries) =
        (.ok found, decoded))
      (stops : Stops range rest decoded fault) :
      Stops range (contract :: rest) scan fault

variable {engine} {range : BlockRange} {contract : Monitored}
  {scan asked decoded : Scan NodeState SinkState} {entries : List LogEntry} {found : List Found}
  {fault : Fault}

/-- A contract that is refused ends the asking. Faults of the node give nothing, and others are
passed on. -/
theorem collect_of_refused
    (refused : engine.askLogs (contract.query range) scan = (.error fault, asked))
    (rest : List Monitored) :
    (engine.collect range (contract :: rest) scan).1 = fault.ending none ∧
      asked.Kept (engine.collect range (contract :: rest) scan).2 ∧
        (engine.collect range (contract :: rest) scan).2.calls = asked.calls := by
  unfold Monitored.query at refused
  rw [collect, refused]
  obtain ⟨kind, message⟩ := fault
  cases kind <;> exact ⟨rfl, ⟨rfl, rfl, rfl, rfl, rfl, rfl, rfl, rfl⟩, rfl⟩

theorem collect_of_unread
    (answered : engine.askLogs (contract.query range) scan = (.ok entries, asked))
    (unread : decodeEntries contract.layout entries (asked.received entries) =
      (.error fault, decoded))
    (rest : List Monitored) :
    engine.collect range (contract :: rest) scan = (.error fault, decoded) := by
  unfold Monitored.query at answered
  unfold Scan.received at unread
  rw [collect, answered]
  simp only [unread]

/-- Behind an answer that is read the asking goes on, and what is found is put in front. -/
theorem collect_of_read
    (answered : engine.askLogs (contract.query range) scan = (.ok entries, asked))
    (read : decodeEntries contract.layout entries (asked.received entries) =
      (.ok found, decoded))
    (rest : List Monitored) :
    engine.collect range (contract :: rest) scan =
      ((engine.collect range rest decoded).1.map fun later? => later?.map (found ++ ·),
        (engine.collect range rest decoded).2) := by
  unfold Monitored.query at answered
  unfold Scan.received at read
  rw [collect, answered]
  simp only [read]
  rcases engine.collect range rest decoded with ⟨result, final⟩
  cases result with
  | error fault => rfl
  | ok later? => rfl

/-- No fault of decoding is one of the network or of an answer. -/
theorem ending_toFault (reason : DecodeFault) {Value : Type} (value : Value) :
    reason.toFault.ending value = .error reason.toFault := by
  unfold DecodeFault.toFault Fault.telling
  split
  · cases reason with
    | unreadable inner => cases inner <;> rfl
    | _ => rfl
  · rfl

/-- A fault met while decoding ends no tick quietly. -/
theorem ending_of_unread {layout : Layout}
    (unread : (decodeEntries layout entries scan).1 = .error fault) {Value : Type}
    (value : Value) : fault.ending value = .error fault := by
  induction entries generalizing scan with
  | nil => cases unread
  | cons entry rest inductionHypothesis =>
    cases decoded : layout.decode entry with
    | ok ballot =>
      rw [decodeEntries_of_ok decoded] at unread
      cases later : (decodeEntries layout rest scan.withDecoded).1 with
      | ok found =>
        rw [later] at unread
        cases unread
      | error other =>
        rw [later] at unread
        cases unread
        exact inductionHypothesis later
    | error reason =>
      by_cases ofEntry : reason.isOfEntry = true
      · rw [decodeEntries_of_skipped decoded ofEntry] at unread
        exact inductionHypothesis unread
      · rw [decodeEntries_of_fault decoded ofEntry] at unread
        cases unread
        exact ending_toFault reason value

/-- Where the asking stops with a fault, it ends as such a fault ends it. -/
theorem collect_of_stops {contracts : List Monitored}
    (stops : engine.Stops range contracts scan fault) :
    (engine.collect range contracts scan).1 = fault.ending none := by
  induction stops with
  | @logs contract rest _ _ refused =>
    exact (collect_of_refused (Prod.ext refused rfl) rest).1
  | @entry contract rest _ _ _ _ answered unread =>
    rw [collect_of_unread answered (Prod.ext unread rfl) rest, ending_of_unread unread]
  | @later contract rest _ _ _ _ _ fault answered read _ inductionHypothesis =>
    rw [collect_of_read answered read rest, inductionHypothesis]
    obtain ⟨kind, message⟩ := fault
    cases kind <;> rfl

/-- Asking the contracts leaves alone what is kept. Every contract is asked unless the asking stops
at one before. -/
theorem collect_cases (engine : Engine NodeState SinkState) (range : BlockRange)
    (contracts : List Monitored) (scan : Scan NodeState SinkState) :
    scan.Kept (engine.collect range contracts scan).2 ∧
      ∃ asked, asked <+: contracts ∧
        (engine.collect range contracts scan).2.calls =
          scan.calls ++ asked.map (fun contract => .logs (contract.query range)) ∧
        ((∃ found, (engine.collect range contracts scan).1 = .ok (some found) ∧
            asked = contracts) ∨
          ∃ fault, engine.Stops range contracts scan fault) := by
  induction contracts generalizing scan with
  | nil =>
    exact ⟨Scan.Kept.refl scan, [], List.prefix_rfl, (List.append_nil _).symm,
      Or.inl ⟨[], rfl, rfl⟩⟩
  | cons contract rest inductionHypothesis =>
    have first := engine.askLogs_kept (contract.query range) scan
    have call : (engine.askLogs (contract.query range) scan).2.calls =
        scan.calls ++ [.logs (contract.query range)] := rfl
    have alone : [contract] <+: contract :: rest := ⟨rest, rfl⟩
    rcases answered : engine.askLogs (contract.query range) scan with ⟨result, asked⟩
    rw [answered] at first call
    cases result with
    | error fault =>
      obtain ⟨-, kept, calls⟩ := collect_of_refused answered rest
      rw [call] at calls
      exact ⟨first.trans kept, [contract], alone, calls,
        Or.inr ⟨fault, .logs (congrArg Prod.fst answered)⟩⟩
    | ok entries =>
      have second := asked.received_kept entries
      obtain ⟨third, sameCalls⟩ :=
        decodeEntries_kept contract.layout entries (asked.received entries)
      rcases outcome : decodeEntries contract.layout entries (asked.received entries)
        with ⟨result, decoded⟩
      rw [outcome] at third sameCalls
      have throughFirst := (first.trans second).trans third
      have callsSoFar : decoded.calls = scan.calls ++ [.logs (contract.query range)] :=
        sameCalls.trans call
      cases result with
      | error fault =>
        rw [collect_of_unread answered outcome rest]
        exact ⟨throughFirst, [contract], alone, callsSoFar,
          Or.inr ⟨fault, .entry answered (congrArg Prod.fst outcome)⟩⟩
      | ok found =>
        obtain ⟨kept, others, isPrefix, calls, ended⟩ := inductionHypothesis decoded
        rw [collect_of_read answered outcome rest]
        refine ⟨throughFirst.trans kept, contract :: others,
          List.cons_prefix_cons.mpr ⟨rfl, isPrefix⟩, ?_, ?_⟩
        · rw [calls, callsSoFar, List.append_assoc]
          rfl
        · rcases ended with ⟨later, same, all⟩ | ⟨fault, stops⟩
          · rw [same, all]
            exact Or.inl ⟨found ++ later, rfl, rfl⟩
          · exact Or.inr ⟨fault, .later answered outcome stops⟩

end Engine

end BallotWatch
