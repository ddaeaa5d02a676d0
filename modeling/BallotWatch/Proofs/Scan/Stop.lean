/-
This file says what a request to stop does to a run, wherever it comes. No round begins after it:
no tick is counted, and the newest block is not asked for. What the run has done in the end is what
the run without the request has done when the tick in progress is finished.
-/

import BallotWatch.Proofs.Ballot.Registry
import BallotWatch.Proofs.Scan.Outlast

namespace BallotWatch

variable {NodeState SinkState : Type}

/-! ### Within one round -/

/-- No round begins between two scans: no tick is counted and no newest block is asked for. -/
structure Scan.SameRound (before after : Scan NodeState SinkState) : Prop where
  ticks : after.counters.ticks = before.counters.ticks
  stopped : after.stopped = false → before.stopped = false
  calls : ∃ made, after.calls = before.calls ++ made ∧ ∀ call ∈ made, call ≠ .tip

namespace Scan.SameRound

theorem of_calls_eq {before after : Scan NodeState SinkState}
    (ticks : after.counters.ticks = before.counters.ticks)
    (stopped : after.stopped = false → before.stopped = false)
    (calls : after.calls = before.calls) : before.SameRound after :=
  ⟨ticks, stopped, [], calls.trans (List.append_nil _).symm,
    fun _ made => absurd made List.not_mem_nil⟩

theorem refl (scan : Scan NodeState SinkState) : scan.SameRound scan :=
  of_calls_eq rfl id rfl

theorem trans {first second third : Scan NodeState SinkState} (earlier : first.SameRound second)
    (later : second.SameRound third) : first.SameRound third := by
  obtain ⟨made, calls, rounds⟩ := earlier.calls
  obtain ⟨laterMade, laterCalls, laterRounds⟩ := later.calls
  refine ⟨later.ticks.trans earlier.ticks, fun going => earlier.stopped (later.stopped going),
    made ++ laterMade, ?_, ?_⟩
  · rw [laterCalls, calls, List.append_assoc]
  · intro call isMade
    exact (List.mem_append.mp isMade).elim (rounds call) (laterRounds call)

theorem staysStopped {before after : Scan NodeState SinkState} (round : before.SameRound after)
    (stopped : before.stopped = true) : after.stopped = true := by
  rw [← Bool.not_eq_false]
  intro going
  rw [round.stopped going] at stopped
  exact Bool.false_ne_true stopped

end Scan.SameRound

theorem Moment.behindAsking_sameRound (range : BlockRange) (rest : List Monitored)
    (found : List Found) (outcome : Except Fault (Option (List Found)) × Scan NodeState SinkState) :
    outcome.2.SameRound (Moment.behindAsking range rest found outcome).scan := by
  rcases outcome with ⟨result, scan⟩
  match result with
  | .error fault => exact .refl scan
  | .ok none => exact .of_calls_eq rfl id rfl
  | .ok (some more) => exact .refl scan

namespace Engine

section Round

theorem decodeEntries_ticks (layout : Layout) (entries : List LogEntry)
    (scan : Scan NodeState SinkState) :
    (decodeEntries layout entries scan).2.counters.ticks = scan.counters.ticks := by
  induction entries generalizing scan with
  | nil => rfl
  | cons entry rest inductionHypothesis =>
    cases decoded : layout.decode entry with
    | ok ballot =>
      rw [decodeEntries_of_ok decoded]
      exact inductionHypothesis scan.withDecoded
    | error fault =>
      by_cases ofEntry : fault.isOfEntry = true
      · rw [decodeEntries_of_skipped decoded ofEntry]
        exact inductionHypothesis (scan.withSkipped _)
      · rw [decodeEntries_of_fault decoded ofEntry]

variable (engine : Engine NodeState SinkState)

theorem collect_ticks (range : BlockRange) (contracts : List Monitored)
    (scan : Scan NodeState SinkState) :
    (engine.collect range contracts scan).2.counters.ticks = scan.counters.ticks := by
  induction contracts generalizing scan with
  | nil => rfl
  | cons contract rest inductionHypothesis =>
    have asks : (engine.askLogs (contract.query range) scan).2.counters.ticks =
        scan.counters.ticks := rfl
    rcases answered : engine.askLogs (contract.query range) scan with ⟨result, asked⟩
    rw [answered] at asks
    cases result with
    | error fault =>
      unfold Monitored.query at answered
      rw [collect, answered]
      obtain ⟨kind, message⟩ := fault
      cases kind <;> exact asks
    | ok entries =>
      have decodes := decodeEntries_ticks contract.layout entries (asked.received entries)
      rcases read : decodeEntries contract.layout entries (asked.received entries)
        with ⟨result, decoded⟩
      rw [read] at decodes
      cases result with
      | error fault =>
        rw [collect_of_unread answered read]
        exact decodes.trans asks
      | ok found =>
        rw [collect_of_read answered read]
        exact (inductionHypothesis decoded).trans (decodes.trans asks)

theorem hand_ticks (notification : Notification) (scan : Scan NodeState SinkState) :
    (engine.hand notification scan).2.counters.ticks = scan.counters.ticks := by
  unfold hand
  dsimp only
  repeat' split
  all_goals rfl

theorem countNotification_ticks (scan : Scan NodeState SinkState) :
    (engine.countNotification scan).counters.ticks = scan.counters.ticks := by
  rw [countNotification_eq]
  repeat' split
  all_goals rfl

/-- However many contracts are asked, it is in one round. -/
theorem collect_sameRound (range : BlockRange) (contracts : List Monitored)
    (scan : Scan NodeState SinkState) :
    scan.SameRound (engine.collect range contracts scan).2 := by
  obtain ⟨-, asked, -, calls, -⟩ := engine.collect_cases range contracts scan
  refine ⟨engine.collect_ticks range contracts scan,
    (engine.collect_follows range contracts scan).stopped, _, calls, ?_⟩
  intro call isAsked
  obtain ⟨contract, -, rfl⟩ := List.mem_map.mp isAsked
  exact nofun

theorem close_sameRound (range : BlockRange) (found : List Found)
    (scan : Scan NodeState SinkState) :
    scan.SameRound (engine.close range found scan).scan := by
  refine .of_calls_eq ?_ ?_ (engine.close_holdsBack range found scan).2
  · unfold close notifications
    dsimp only
    split <;> rfl
  · unfold close notifications
    dsimp only
    split <;> exact id

theorem handOne_sameRound (range : BlockRange) (notification : Notification)
    (rest : List Notification) (scan : Scan NodeState SinkState) :
    scan.SameRound (engine.handOne range notification rest scan).scan := by
  have calls := (engine.handOne_calls range notification rest scan).2.2
  have ticks := engine.hand_ticks notification scan
  have follows := engine.hand_follows notification scan
  revert calls
  unfold handOne
  revert ticks follows
  rcases engine.hand notification scan with ⟨result, handed⟩
  intro ticks follows
  cases result with
  | error fault => exact fun calls => .of_calls_eq ticks follows.stopped calls
  | ok _ =>
    have counted := engine.countNotification_ticks handed
    have still := follows.trans (engine.countNotification_follows handed)
    dsimp only
    split <;> exact fun calls => .of_calls_eq (counted.trans ticks) still.stopped calls

/-- A step after the request to stop begins no round. -/
theorem next_sameRound {moment : Moment NodeState SinkState}
    (stopped : moment.scan.stopped = true) :
    moment.scan.SameRound (engine.next moment).scan := by
  by_cases between : moment.stage.IsBetweenTicks
  · rw [next_of_stopped engine stopped between]
    exact .refl moment.scan
  rcases moment with ⟨stage, scan⟩
  match stage with
  | .placing => exact (between trivial).elim
  | .resting => exact (between trivial).elim
  | .asking range [] found => exact engine.close_sameRound range found scan
  | .asking range (contract :: rest) found =>
    exact (engine.collect_sameRound range [contract] scan).trans
      (Moment.behindAsking_sameRound range rest found _)
  | .handing range [] => exact .refl scan
  | .handing range (notification :: rest) =>
    exact engine.handOne_sameRound range notification rest scan
  | .ended result => exact .refl scan

/-- A run that is asked to stop before it has found its place begins no tick. -/
theorem run_of_settle_stopped {scan : Scan NodeState SinkState}
    (stopped : (engine.settle scan).2.stopped = true) :
    (engine.run scan).2 = (engine.settle scan).2 := by
  unfold run
  revert stopped
  rcases engine.settle scan with ⟨result, settled⟩
  intro stopped
  match result with
  | .error fault => rfl
  | .ok false => rfl
  | .ok true =>
    dsimp only
    rw [tickAll, if_pos stopped]

end Round

section Run

variable {engine : Engine NodeState SinkState} {node : NodeAccess NodeState}
  {sink : Sink SinkState} {fresh : Scan NodeState SinkState} {moment : Moment NodeState SinkState}

/-- A moment at which the stop has been asked for lies in the last round of the run. -/
theorem Passes.sameRound (passes : engine.Passes fresh moment)
    (unreached : fresh.limitReached = false) (stopped : moment.scan.stopped = true) :
    moment.scan.SameRound (engine.run fresh).2 := by
  have kept := (passes.leads_last unreached).keeps
    (fun other => moment.scan.SameRound other.scan ∧ other.scan.stopped = true)
    (fun other ⟨round, stillStopped⟩ => by
      have step := engine.next_sameRound stillStopped
      exact ⟨round.trans step, step.staysStopped stillStopped⟩)
    ⟨.refl moment.scan, stopped⟩
  exact kept.1

/-- Between two ticks a run that was asked to stop is over. -/
theorem Passes.run_of_stopped (passes : engine.Passes fresh moment)
    (unreached : fresh.limitReached = false) (stopped : moment.scan.stopped = true)
    (between : moment.stage.IsBetweenTicks) : (engine.run fresh).2 = moment.scan := by
  have passesNext : engine.Passes fresh (engine.next moment) := passes.trans (leads_next moment)
  rw [next_of_stopped engine stopped between] at passesNext
  exact congrArg Moment.scan (eq_of_leads_ended (passesNext.leads_last unreached))

/-- A request to stop ends a run with the tick in progress, wherever it comes: from there on no
tick is begun and the newest block is not asked for, and what the run has done in the end is what
the same run without the request has done when that tick is finished. A run that is asked to stop
before it has found its place begins no tick. -/
theorem run_of_stop (nodeOutlasts : node.Outlasts engine.node)
    (sinkOutlasts : sink.Outlasts engine.sink) (nodeState : NodeState) (sinkState : SinkState)
    (clock : Clock) {stopped laterStopped : Bool}
    (stops : laterStopped = true → stopped = true) :
    let fresh : Scan NodeState SinkState :=
      { node := nodeState, sink := sinkState, clock, stopped }
    let laterFresh : Scan NodeState SinkState := { fresh with stopped := laterStopped }
    (∀ moment, engine.Passes fresh moment → moment.scan.stopped = true →
      moment.scan.SameRound (engine.run fresh).2 ∧
        ∃ twin cut, (engine.withParts node sink).Passes laterFresh twin ∧ twin.IsAbreastOf moment ∧
          (engine.withParts node sink).Leads twin cut ∧ cut.IsAbreastOf (engine.last fresh)) ∧
      ((engine.settle fresh).2.stopped = true →
        (engine.run fresh).2 = (engine.settle fresh).2 ∧
          (engine.run fresh).2.counters.ticks = 0) := by
  intro fresh laterFresh
  constructor
  · intro moment passes isStopped
    refine ⟨passes.sameRound rfl isStopped, ?_⟩
    have begins : (Moment.first laterFresh).IsAbreastOf (Moment.first fresh) :=
      Or.inl ⟨rfl, laterStopped, rfl, stops⟩
    obtain ⟨twin, alsoPasses, abreast⟩ :=
      Leads.abreast nodeOutlasts sinkOutlasts passes begins
    obtain ⟨cut, leads, atEnd⟩ :=
      Leads.abreast nodeOutlasts sinkOutlasts (passes.leads_last rfl) abreast
    exact ⟨twin, cut, alsoPasses, abreast, leads, atEnd⟩
  · intro isStopped
    have same := engine.run_of_settle_stopped isStopped
    refine ⟨same, ?_⟩
    rw [same]
    exact congrArg Counters.ticks (engine.settle_keeps fresh).1

end Run

/-- A request to stop that comes with the logs of the contract: what was found in them is still
handed on, and no tick follows. -/
theorem run_of_stop_while_asking :
    let layout : Layout := { Registry.eventLayout .threshold .v2 with topic := "0x00" }
    let entry : LogEntry := ⟨"0x00", ["0x00"], List.replicate 224 0, 3, 0, ""⟩
    let config : WatchConfig :=
      { network := .core, endpoint := "", version := .v2, kinds := [.threshold]
        addresses := [(.threshold, "0x00")], start := .earliest, pollInterval := default }
    let later := NodeAccess.constant 7 fun _ => .ok [entry]
    let node : NodeAccess Nat :=
      { later with
        logs := fun query left => (⟨(later.logs query left).1.result, true⟩, left)
        logs_supply := fun _ _ => Nat.le_refl _ }
    let sink : Sink Unit := fun _ state => ({}, state)
    let engine : Engine Nat Unit := ⟨config, [⟨.threshold, "0x00", layout⟩], node, sink⟩
    let fresh : Scan Nat Unit := { node := 3, sink := () }
    let asked := engine.next^[3] (.first fresh)
    (engine.next^[2] (.first fresh)).scan.stopped = false ∧ asked.scan.stopped = true ∧
      asked.scan.attempts = [] ∧ asked.scan.SameRound (engine.run fresh).2 ∧
        (engine.run fresh).2.attempts.map Notification.block = [3] ∧
          ∃ cut, (engine.withParts later sink).Passes fresh cut ∧
            cut.IsAbreastOf (engine.last fresh) := by
  intro layout entry config later node sink engine fresh asked
  have nodeOutlasts : later.Outlasts engine.node :=
    ⟨fun state => ⟨_, rfl, id⟩, fun query state => ⟨false, rfl, nofun⟩⟩
  have sinkOutlasts : sink.Outlasts engine.sink := fun notification state => ⟨_, rfl, id⟩
  have stopped : asked.scan.stopped = true := by decide +kernel
  obtain ⟨round, twin, cut, passes, -, leads, abreast⟩ :=
    (run_of_stop nodeOutlasts sinkOutlasts 3 () {} (fun stop => stop)).1 asked
      (engine.passes_iterate fresh 3) stopped
  have passesEnd := engine.passes_iterate fresh 6
  have final := passesEnd.run_of_stopped rfl (by decide +kernel) (by decide +kernel)
  refine ⟨by decide +kernel, stopped, by decide +kernel, round, ?_, cut, passes.trans leads,
    abreast⟩
  rw [final]
  decide +kernel

end Engine

end BallotWatch
