/-
This file proves that the counters of a run balance. Every tick fails, commits a span or finds no
new block. Every entry is decoded or left out. Every decoded entry is returned as a notification,
unless its tick was aborted by the refusal of a later contract, and every notification that was
handed on was returned.

A tick that is cut short by a fault of its own is counted under none of these.
-/

import BallotWatch.Proofs.Scan.Replies

namespace BallotWatch

variable {NodeState SinkState : Type}

/-! ### Answers counted -/

/-- Of all answers together, too, every entry is found or skipped. -/
theorem Answer.length_flatMap_entries (answers : List Answer) :
    (answers.flatMap Answer.entries).length =
      (answers.flatMap Answer.found).length + (answers.map Answer.skipped).sum := by
  induction answers with
  | nil => rfl
  | cons answer rest inductionHypothesis =>
    have here := answer.length_found
    simp only [List.flatMap_cons, List.length_append, List.map_cons, List.sum_cons]
    omega

namespace Engine

variable {engine : Engine NodeState SinkState} {scan asked : Scan NodeState SinkState}
  {range : BlockRange} {fault : Fault}

/-! ### Handing on counted -/

theorem countNotification_counters (engine : Engine NodeState SinkState)
    (scan : Scan NodeState SinkState) :
    (engine.countNotification scan).counters =
      { scan.counters with notifications := scan.counters.notifications + 1 } := by
  unfold countNotification
  dsimp only
  repeat' split
  all_goals rfl

/-- A notification that was handed on may be counted as undelivered. -/
theorem hand_undelivered (engine : Engine NodeState SinkState) (notification : Notification)
    (scan : Scan NodeState SinkState) :
    ∃ undelivered ≤ 1, (engine.hand notification scan).2.counters =
      { scan.counters with
        dispatchFailures := scan.counters.dispatchFailures + undelivered } := by
  unfold hand
  dsimp only
  split
  · exact ⟨0, Nat.zero_le 1, rfl⟩
  · split
    · exact ⟨1, Nat.le_refl 1, rfl⟩
    · exact ⟨0, Nat.zero_le 1, rfl⟩

/-- Handing on counts the notifications up to the limit, and those of them that could not be
delivered. -/
theorem emit_counters (contained : engine.sink.IsContained) (notifications : List Notification)
    (scan : Scan NodeState SinkState) :
    ∃ handed undelivered, undelivered ≤ handed ∧ handed ≤ notifications.length ∧
      (engine.config.limit? = none → handed = notifications.length) ∧
        (engine.emit notifications scan).2.counters =
          { scan.counters with
            notifications := scan.counters.notifications + handed
            dispatchFailures := scan.counters.dispatchFailures + undelivered } := by
  induction notifications generalizing scan with
  | nil => exact ⟨0, 0, Nat.le_refl 0, Nat.le_refl 0, fun _ => rfl, rfl⟩
  | cons notification rest inductionHypothesis =>
    have accepted := engine.hand_contained contained notification scan
    obtain ⟨failed, atMostOne, counters⟩ := engine.hand_undelivered notification scan
    rcases handed : engine.hand notification scan with ⟨result, after⟩
    rw [handed] at accepted counters
    obtain rfl : result = .ok () := accepted
    have counted : (engine.countNotification after).counters =
        { scan.counters with
          notifications := scan.counters.notifications + 1
          dispatchFailures := scan.counters.dispatchFailures + failed } := by
      rw [countNotification_counters, show after.counters = _ from counters]
    rw [emit_of_handed handed]
    by_cases limit : engine.atLimit (engine.countNotification after) = true
    · rw [if_pos limit]
      refine ⟨1, failed, atMostOne, Nat.succ_le_succ (Nat.zero_le _), fun unlimited => ?_, counted⟩
      rw [atLimit, unlimited] at limit
      exact absurd limit Bool.false_ne_true
    · rw [if_neg limit]
      obtain ⟨more, undelivered, fewer, atMost, whole, later⟩ :=
        inductionHypothesis (engine.countNotification after)
      refine ⟨more + 1, undelivered + failed, Nat.add_le_add fewer atMostOne,
        Nat.succ_le_succ atMost, fun unlimited => congrArg (· + 1) (whole unlimited), ?_⟩
      rw [later, counted]
      simp only [Nat.add_assoc, Nat.add_comm 1, Nat.add_comm failed]

/-! ### Ticks cut short -/

/-- A tick is cut short by a fault of its own: it is to start at a block that is not there yet, its
next block is no block of a chain, or a contract answers with an entry on which its layout
chokes. -/
inductive IsCutShort (engine : Engine NodeState SinkState) (scan : Scan NodeState SinkState) : Prop
  | beyond {tip : Int} (startsBeyond : engine.StartsBeyond scan tip)
  | lost {tip : Int} {asked anchored : Scan NodeState SinkState} {reason : CursorFault}
      (told : engine.askTip scan.begun = (.ok tip, asked))
      (placed : engine.anchor tip asked = (.ok (), anchored))
      (refused : anchored.cursor.nextRange tip = .error reason)
  | chokes {answer : Answer} (replied : answer ∈ (engine.repliesTo scan).1)
      (chokes : answer.Chokes)

/-- The ballots of the answers that came before a refusal. -/
def abandonedOf : List Answer × Option Fault → List Found
  | (answers, some _) => answers.flatMap Answer.found
  | (_, none) => []

/-- The ballots found by a tick before a contract refused to answer. -/
def abandoned (engine : Engine NodeState SinkState) (scan : Scan NodeState SinkState) :
    List Found :=
  abandonedOf (engine.repliesTo scan)

/-! ### One tick -/

/-- The counters of so many ticks balance, of which some found no new block, with the number of the
notifications that were returned and of the ballots that were abandoned. -/
structure Balances (engine : Engine NodeState SinkState) (counters : Counters)
    (count idle returned abandoned : Nat) : Prop where
  ticks : counters.ticks = count
  endings : counters.ticks = counters.failedTicks + counters.rangesCommitted + idle
  logs : counters.totalLogs = counters.decoded + counters.skipped
  undelivered : counters.dispatchFailures ≤ counters.notifications
  handed : counters.notifications ≤ returned
  all : engine.config.limit? = none → counters.notifications = returned
  found : counters.decoded = returned + abandoned

namespace Balances

variable {counters : Counters} {count idle returned abandoned : Nat}
  (balances : engine.Balances counters count idle returned abandoned)

include balances in
/-- A tick that fails abandons the ballots of the answers it had. -/
theorem failed (answers : List Answer) :
    engine.Balances
      { ({ counters with ticks := counters.ticks + 1 } : Counters).withAnswers answers with
        failedTicks := counters.failedTicks + 1 }
      (count + 1) idle returned (abandoned + (answers.flatMap Answer.found).length) := by
  obtain ⟨ticks, endings, logs, undelivered, handed, all, found⟩ := balances
  have entries := Answer.length_flatMap_entries answers
  refine ⟨congrArg (· + 1) ticks, ?_, ?_, undelivered, handed, all, ?_⟩
  · dsimp only [Counters.withAnswers]
    omega
  · dsimp only [Counters.withAnswers]
    omega
  · dsimp only [Counters.withAnswers]
    omega

include balances in
theorem idled :
    engine.Balances { counters with ticks := counters.ticks + 1 } (count + 1) (idle + 1) returned
      abandoned := by
  obtain ⟨ticks, endings, logs, undelivered, handed, all, found⟩ := balances
  exact ⟨congrArg (· + 1) ticks, congrArg (· + 1) endings, logs, undelivered, handed, all, found⟩

include balances in
/-- A tick that commits a span returns the ballots of the answers. -/
theorem committed (answers : List Answer) {more failures : Nat} (failuresLe : failures ≤ more)
    (moreLe : more ≤ (answers.flatMap Answer.found).length)
    (whole : engine.config.limit? = none → more = (answers.flatMap Answer.found).length) :
    engine.Balances
      { ({ counters with ticks := counters.ticks + 1 } : Counters).withAnswers answers with
        rangesCommitted := counters.rangesCommitted + 1
        notifications := counters.notifications + more
        dispatchFailures := counters.dispatchFailures + failures }
      (count + 1) idle (returned + (answers.flatMap Answer.found).length) abandoned := by
  obtain ⟨ticks, endings, logs, undelivered, handed, all, found⟩ := balances
  have entries := Answer.length_flatMap_entries answers
  refine ⟨congrArg (· + 1) ticks, ?_, ?_, Nat.add_le_add undelivered failuresLe,
    Nat.add_le_add handed moreLe, fun unlimited => ?_, ?_⟩
  · dsimp only [Counters.withAnswers]
    omega
  · dsimp only [Counters.withAnswers]
    omega
  · dsimp only
    rw [all unlimited, whole unlimited]
  · dsimp only [Counters.withAnswers]
    omega

end Balances

theorem tick_of_silent_node (silent : engine.askTip scan.begun = (.error fault, asked))
    (ofNode : fault.IsOfNode) :
    (engine.tick scan).1 = .ok [] ∧ (engine.tick scan).2.counters =
      { ({ scan.counters with ticks := scan.counters.ticks + 1 } : Counters).withAnswers [] with
        failedTicks := scan.counters.failedTicks + 1 } := by
  have counted : asked.countFailure.counters =
      { ({ scan.counters with ticks := scan.counters.ticks + 1 } : Counters).withAnswers [] with
        failedTicks := scan.counters.failedTicks + 1 } :=
    congrArg (fun outcome => outcome.2.countFailure.counters) silent.symm
  unfold Scan.begun at silent
  rw [tick, silent]
  obtain ⟨kind, message⟩ := fault
  rcases ofNode with rfl | rfl <;> exact ⟨rfl, counted⟩

theorem length_notifications (engine : Engine NodeState SinkState) (found : List Found)
    (scan : Scan NodeState SinkState) :
    (engine.notifications found scan).1.length = found.length := by
  rw [notifications, List.length_map, (sortByPosition_perm _ found).length_eq]

/-- Committing a span counts it, with as many notifications as were handed on. Only a limit can
leave some of them out. -/
theorem finish_counters (contained : engine.sink.IsContained) (found : List Found)
    (isNext : scan.cursor.next = .ok range.first) :
    ∃ handed undelivered, undelivered ≤ handed ∧ handed ≤ found.length ∧
      (engine.config.limit? = none → handed = found.length) ∧
        (engine.finish range found scan).2.counters =
          { scan.counters with
            rangesCommitted := scan.counters.rangesCommitted + 1
            notifications := scan.counters.notifications + handed
            dispatchFailures := scan.counters.dispatchFailures + undelivered } := by
  rw [engine.finish_eq found isNext, ← engine.length_notifications found scan]
  exact engine.emit_counters contained _ (engine.movedPast range found scan)

section Tick

variable (nodeContained : engine.node.IsContained)
  (sinkContained : engine.sink.IsContained)
  (known : ∀ contract ∈ engine.contracts, contract.layout ∈ Registry.standard)

theorem isCutShort_of_unplaced {tip : Int} {anchored : Scan NodeState SinkState}
    (told : engine.askTip scan.begun = (.ok tip, asked))
    (unplaced : engine.anchor tip asked = (.error fault, anchored)) : engine.IsCutShort scan := by
  obtain ⟨unknown, beyond, -⟩ := anchor_eq_error unplaced
  have sameCursor : (engine.askTip scan.begun).2.cursor = scan.cursor := rfl
  rw [told] at sameCursor
  rw [sameCursor] at unknown
  exact .beyond ⟨unknown, congrArg Prod.fst told, beyond⟩

include known in
theorem isCutShort_of_breaks {answer : Answer} (replied : answer ∈ (engine.repliesTo scan).1)
    (breaks : answer.Breaks) : engine.IsCutShort scan := by
  refine .chokes replied ?_
  have monitored : answer.contract ∈ engine.contracts := by
    rw [repliesTo] at replied
    split at replied
    · exact contract_mem_of_replies replied
    · cases replied
  obtain ⟨entry, member, breaking⟩ := breaks
  exact ⟨entry, member, (Layout.breaks_iff_chokes (known _ monitored)).mp breaking⟩

include nodeContained sinkContained in
/-- A tick that comes to ask the contracts returns a list and keeps the balance, unless a layout
breaks. -/
theorem advance_balances {tip : Int} {earlier : Counters}
    (begun : scan.counters = { earlier with ticks := earlier.ticks + 1 })
    (span : scan.cursor.nextRange tip = .ok (some range))
    (unbroken : ∀ answer ∈ (engine.replies range engine.contracts scan.node).1, ¬answer.Breaks) :
    (∃ notifications, (engine.advance tip scan).1 = .ok notifications) ∧
      ∀ count idle returned abandoned,
        engine.Balances earlier count idle returned abandoned →
          engine.Balances (engine.advance tip scan).2.counters (count + 1) idle
            (returned + (Engine.returned (engine.advance tip scan).1).length)
            (abandoned +
              (abandonedOf (engine.replies range engine.contracts scan.node)).length) := by
  have counted := (collect_of_replies unbroken).2
  rw [begun] at counted
  rcases replied : engine.replies range engine.contracts scan.node with ⟨answers, refusal?⟩
  rw [replied] at counted
  cases refusal? with
  | some fault =>
    have ofNode := isOfNode_of_replies nodeContained (congrArg Prod.snd replied)
    rw [advance_of_refusal span unbroken ofNode (congrArg Prod.snd replied), Scan.countFailure]
    dsimp only [Scan.count]
    rw [counted]
    exact ⟨⟨[], rfl⟩, fun _ _ _ _ balances => balances.failed answers⟩
  | none =>
    have isNext := next_of_kept span (engine.collect_cases range engine.contracts scan).1
    obtain ⟨more, failures, failuresLe, moreLe, all, counters⟩ :=
      finish_counters sinkContained (answers.flatMap Answer.found) isNext
    rw [advance_of_answers span unbroken (congrArg Prod.snd replied), replied, counters, counted,
      finish_accepted sinkContained isNext, Engine.returned, engine.length_notifications]
    exact ⟨⟨_, rfl⟩, fun _ _ _ _ balances => balances.committed answers failuresLe moreLe all⟩

include nodeContained sinkContained known in
/-- The step: a tick that is not cut short returns a list and keeps the balance. -/
theorem tick_balances (whole : ¬engine.IsCutShort scan) :
    (∃ notifications, (engine.tick scan).1 = .ok notifications) ∧
      ∀ count idle returned abandoned,
        engine.Balances scan.counters count idle returned abandoned →
          engine.Balances (engine.tick scan).2.counters (count + 1)
            (idle + (engine.isIdle scan).toNat)
            (returned + (Engine.returned (engine.tick scan).1).length)
            (abandoned + (engine.abandoned scan).length) := by
  rcases told : engine.askTip scan.begun with ⟨result, asked⟩
  cases result with
  | error fault =>
    obtain ⟨ended, counters⟩ :=
      tick_of_silent_node told (nodeContained.tip _ _ (congrArg Prod.fst told))
    rw [ended, counters, isIdle, Engine.abandoned, repliesTo, inHand?_of_silent told]
    exact ⟨⟨[], rfl⟩, fun _ _ _ _ balances => balances.failed []⟩
  | ok tip =>
    rcases placed : engine.anchor tip asked with ⟨result, anchored⟩
    cases result with
    | error fault => exact absurd (isCutShort_of_unplaced told placed) whole
    | ok _ =>
      have begun := counters_of_anchor told placed
      rw [tick_of_placed told placed]
      cases span : anchored.cursor.nextRange tip with
      | error reason => exact absurd (.lost told placed span) whole
      | ok range? =>
        cases range? with
        | none =>
          have counted : (engine.advance tip anchored).2.counters =
              { scan.counters with ticks := scan.counters.ticks + 1 } := by
            rw [advance, span]
            exact begun
          rw [isIdle, Engine.abandoned, repliesTo, inHand?_of_placed told placed span, counted,
            (engine.advance_of_none span).1]
          exact ⟨⟨[], rfl⟩, fun _ _ _ _ balances => balances.idled⟩
        | some range =>
          have replied := repliesTo_of_placed told placed span
          rw [isIdle, Engine.abandoned, replied, inHand?_of_placed told placed span]
          refine advance_balances nodeContained sinkContained begun span fun answer member breaks =>
            whole (isCutShort_of_breaks known ?_ breaks)
          rw [replied]
          exact member

include known in
/-- A tick that is cut short returns no list, so every tick that returns one is counted. -/
theorem exists_error_of_isCutShort (cut : engine.IsCutShort scan) :
    ∃ fault, (engine.tick scan).1 = .error fault := by
  cases cut with
  | @beyond tip startsBeyond =>
    obtain ⟨unknown, told, beyond⟩ := startsBeyond
    have sameCursor : (engine.askTip scan.begun).2.cursor = scan.cursor := rfl
    rcases outcome : engine.askTip scan.begun with ⟨result, asked⟩
    rw [outcome] at told sameCursor
    obtain rfl : result = .ok tip := told
    have unplaced : ¬asked.cursor.isAnchored = true := by
      rw [show asked.cursor = scan.cursor from sameCursor, unknown]
      exact Bool.false_ne_true
    have refused : engine.anchor tip asked =
        (.error (CursorFault.startBeyondTip engine.config.start.value tip).toFault, asked) := by
      rw [anchor, if_neg unplaced, Cursor.anchored, StartMode.anchor_of_isBeyond beyond]
    rw [tick_of_unplaced outcome refused]
    exact ⟨_, rfl⟩
  | lost told placed refused =>
    rw [tick_of_placed told placed, advance_of_error refused]
    exact ⟨_, rfl⟩
  | @chokes answer replied chokes =>
    obtain ⟨entry, member, choking⟩ := chokes
    rw [repliesTo] at replied
    split at replied
    · rename_i range anchored inHand
      obtain ⟨tip, asked, told, placed, handed⟩ := inHand?_eq_some inHand
      rw [tick_of_placed told placed]
      have layout := known _ (contract_mem_of_replies replied)
      exact advance_of_breaks handed
        ⟨answer, replied, entry, member, (Layout.breaks_iff_chokes layout).mpr choking⟩
    · cases replied

end Tick

/-! ### Ticks one after another -/

/-- How many of so many ticks found no new block. -/
def idleBy (engine : Engine NodeState SinkState) (scan : Scan NodeState SinkState)
    (count : Nat) : Nat :=
  (List.range count).countP fun earlier => engine.isIdle (engine.after scan earlier)

/-- The ballots that so many ticks have abandoned. -/
def abandonedBy (engine : Engine NodeState SinkState) (scan : Scan NodeState SinkState)
    (count : Nat) : List Found :=
  (List.range count).flatMap fun earlier => engine.abandoned (engine.after scan earlier)

/-- So many ticks balance, unless one of them was cut short. -/
def BalancesAfter (engine : Engine NodeState SinkState) (scan : Scan NodeState SinkState)
    (count : Nat) : Prop :=
  (∃ earlier < count, engine.IsCutShort (engine.after scan earlier)) ∨
    engine.Balances (engine.after scan count).counters count (engine.idleBy scan count)
      (engine.returnedBy scan count).length (engine.abandonedBy scan count).length

section Run

variable (nodeContained : engine.node.IsContained) (sinkContained : engine.sink.IsContained)
  (known : ∀ contract ∈ engine.contracts, contract.layout ∈ Registry.standard)

include nodeContained sinkContained known in
/-- The induction is on the number of ticks. -/
theorem balancesAfter (fresh : scan.counters = {}) (count : Nat) :
    engine.BalancesAfter scan count := by
  induction count with
  | zero =>
    refine .inr ?_
    rw [after, fresh]
    exact ⟨rfl, rfl, rfl, Nat.le_refl 0, Nat.le_refl 0, fun _ => rfl, rfl⟩
  | succ count inductionHypothesis =>
    rcases inductionHypothesis with ⟨earlier, before, cut⟩ | balances
    · exact .inl ⟨earlier, Nat.lt_succ_of_lt before, cut⟩
    · by_cases cut : engine.IsCutShort (engine.after scan count)
      · exact .inl ⟨count, Nat.lt_succ_self count, cut⟩
      · have one : (if engine.isIdle (engine.after scan count) = true then 1 else 0) =
            (engine.isIdle (engine.after scan count)).toNat := by
          cases engine.isIdle (engine.after scan count) <;> rfl
        refine .inr ?_
        rw [idleBy, abandonedBy, List.range_succ, List.countP_append, List.flatMap_append,
          List.length_append, List.flatMap_singleton, List.countP_singleton, one, returnedBy,
          List.length_append, after]
        exact (tick_balances nodeContained sinkContained known cut).2 _ _ _ _ balances

end Run

theorem after_tick (engine : Engine NodeState SinkState) (scan : Scan NodeState SinkState)
    (count : Nat) : engine.after (engine.tick scan).2 count = engine.after scan (count + 1) := by
  induction count with
  | zero => rfl
  | succ count inductionHypothesis =>
    exact congrArg (fun later => (engine.tick later).2) inductionHypothesis

/-- A run is some number of ticks one after another. -/
theorem tickAll_eq_after (engine : Engine NodeState SinkState) (scan : Scan NodeState SinkState) :
    ∃ count, (engine.tickAll scan).2 = engine.after scan count := by
  fun_induction Engine.tickAll engine scan with
  | case1 scan => exact ⟨0, rfl⟩
  | case2 scan _ fault after ticked => exact ⟨1, congrArg Prod.snd ticked.symm⟩
  | case3 scan _ notifications after ticked => exact ⟨1, congrArg Prod.snd ticked.symm⟩
  | case4 scan _ notifications after ticked _ _ inductionHypothesis =>
    obtain ⟨count, same⟩ := inductionHypothesis
    refine ⟨count + 1, same.trans ?_⟩
    rw [← engine.after_tick, ticked]

theorem settle_counters (engine : Engine NodeState SinkState) (scan : Scan NodeState SinkState) :
    (engine.settle scan).2.counters = scan.counters := by
  fun_induction Engine.settle engine scan with
  | case1 => rfl
  | case2 scan _ tip asked told => exact congrArg (fun outcome => outcome.2.counters) told.symm
  | case3 scan _ tip asked told => exact congrArg (fun outcome => outcome.2.counters) told.symm
  | case4 scan _ fault asked told => exact congrArg (fun outcome => outcome.2.counters) told.symm
  | case5 scan _ fault asked told level text _ _ _ inductionHypothesis =>
    exact inductionHypothesis.trans (congrArg (fun outcome => outcome.2.counters) told.symm)
  | case6 scan _ fault asked told => exact congrArg (fun outcome => outcome.2.counters) told.symm

/-- A run is a number of ticks behind the place at which it begins. -/
theorem run_eq_after (engine : Engine NodeState SinkState) (scan : Scan NodeState SinkState) :
    ∃ count, (engine.run scan).2 = engine.after (engine.settle scan).2 count := by
  unfold run
  rcases engine.settle scan with ⟨result, begun⟩
  match result with
  | .error fault => exact ⟨0, rfl⟩
  | .ok false => exact ⟨0, rfl⟩
  | .ok true => exact engine.tickAll_eq_after begun

/-- Over a node that only fails in the network or in its answers and a sink that only fails to
deliver, the counters balance after any number of ticks and after a run, unless a tick was cut
short. Those are the ticks that return no list. -/
theorem counters_balance {config : WatchConfig} {node : NodeAccess NodeState}
    {sink : Sink SinkState}
    (accepted : Engine.make config Registry.standard node sink = .ok engine)
    (nodeContained : node.IsContained) (sinkContained : sink.IsContained)
    (nodeState : NodeState) (sinkState : SinkState) (clock : Clock) (stopped : Bool) :
    let fresh : Scan NodeState SinkState :=
      { node := nodeState, sink := sinkState, clock, stopped }
    let begun := (engine.settle fresh).2
    (∀ count, engine.BalancesAfter fresh count) ∧
      (∃ count, (engine.run fresh).2 = engine.after begun count ∧
        engine.BalancesAfter begun count) ∧
      ∀ scan, engine.IsCutShort scan ↔ ∃ fault, (engine.tick scan).1 = .error fault := by
  intro fresh begun
  have known := known_of_make accepted
  obtain ⟨rfl, rfl, rfl, -⟩ := make_eq_ok accepted
  obtain ⟨count, same⟩ := engine.run_eq_after fresh
  refine ⟨balancesAfter nodeContained sinkContained known rfl, ⟨count, same, ?_⟩, fun scan => ?_⟩
  · exact balancesAfter nodeContained sinkContained known (engine.settle_counters fresh) count
  · refine ⟨exists_error_of_isCutShort known, ?_⟩
    rintro ⟨fault, failed⟩
    by_contra whole
    obtain ⟨notifications, returns⟩ := (tick_balances nodeContained sinkContained known whole).1
    rw [failed] at returns
    cases returns

/-- One tick finds a ballot and leaves out another entry, and the next finds no new block. The
ballot is counted as handed on and as undelivered. -/
theorem counters_balance_of_two_ticks :
    let ballot : LogEntry :=
      ⟨"0x00", [thresholdContract.layout.topic], List.replicate 224 0, 3, 0, ""⟩
    let node := NodeAccess.constant 7 fun _ => .ok [ballot, ⟨"0x00", [], [], 5, 0, ""⟩]
    let sink : Sink Unit := fun _ state => ({ result := .error ⟨.dispatch, "refused"⟩ }, state)
    let engine := ofThreshold node sink
    let fresh : Scan Nat Unit := { node := 3, sink := () }
    (engine.after fresh 2).counters = ⟨2, 0, 1, 2, 1, 1, 1, 1⟩ ∧
      engine.Balances (engine.after fresh 2).counters 2 1 1 0 := by
  intro ballot node sink engine fresh
  have nodeContained : node.IsContained := NodeAccess.constant_isContained 7 nofun
  have sinkContained : sink.IsContained := by
    intro notification state fault refused
    cases refused
    rfl
  obtain ⟨balances, -, cutShort⟩ := counters_balance (make_ofThreshold node sink) nodeContained
    sinkContained 3 () {} false
  obtain ⟨counters, returns, idle, returned, abandoned⟩ :
      (engine.after fresh 2).counters = ⟨2, 0, 1, 2, 1, 1, 1, 1⟩ ∧
        (∀ earlier < 2, (engine.tick (engine.after fresh earlier)).1.toOption.isSome = true) ∧
          engine.idleBy fresh 2 = 1 ∧ (engine.returnedBy fresh 2).length = 1 ∧
            (engine.abandonedBy fresh 2).length = 0 := by decide +kernel
  rcases balances 2 with ⟨earlier, before, cut⟩ | balances
  · obtain ⟨fault, failed⟩ := (cutShort _).mp cut
    have returned := returns earlier before
    rw [failed] at returned
    cases returned
  · rw [idle, returned, abandoned] at balances
    exact ⟨counters, balances⟩

/-- An entry without topics at a block with too many digits is received, but it is neither decoded
nor left out, and its tick is none of those that fail, commit or find no new block. -/
theorem counters_of_unwritable :
    let block : Nat := 10 ^ Text.Numeral.digitLimit
    let entry : LogEntry := ⟨"0x00", [], [], block, 0, ""⟩
    let node := NodeAccess.constant 7 fun _ => .ok [entry]
    let sink : Sink Unit := fun _ state => ({}, state)
    let engine := ofThreshold node sink
    let fresh : Scan Nat Unit := { node := 3, sink := () }
    Engine.make thresholdConfig Registry.standard node sink = .ok engine ∧ node.IsContained ∧
      sink.IsContained ∧ thresholdConfig.start = .earliest ∧
        (engine.after fresh 1).counters = ⟨1, 0, 0, 1, 0, 0, 0, 0⟩ ∧
          engine.idleBy fresh 1 = 0 ∧
            ∀ returned abandoned,
              ¬engine.Balances (engine.after fresh 1).counters 1 0 returned abandoned := by
  intro block entry node sink engine fresh
  have nodeContained : node.IsContained := by
    refine NodeAccess.constant_isContained 7 ?_
    intro query fault refused
    cases refused
  have sinkContained : sink.IsContained := by
    intro notification state fault refused
    cases refused
  have far : ¬Text.Numeral.isWritable block = true :=
    Text.Numeral.not_isWritable_of_le (Nat.le_refl block)
  -- From here on the block is a name only, so that nothing tries to compute its digits.
  clear_value block
  have chokes : thresholdContract.layout.Chokes entry :=
    ⟨Layout.not_hasTopic_of_no_topics rfl, fun writable => far writable.1⟩
  have collects (asked : Scan Nat Unit) :
      engine.collect ⟨0, 7, by decide, by decide⟩ engine.contracts asked =
        (.error .unwritable, (engine.askLogs _ asked).2.received [entry]) :=
    collect_of_unread rfl (decodeEntries_of_choked known_thresholdContract chokes [] _) []
  have counters : (engine.after fresh 1).counters = ⟨1, 0, 0, 1, 0, 0, 0, 0⟩ := by
    rw [after, after, tick_of_placed rfl rfl, advance_of_fault rfl (collects _)]
    rfl
  refine ⟨make_ofThreshold node sink, nodeContained, sinkContained, rfl, counters, rfl, ?_⟩
  rintro returned abandoned ⟨-, -, logs, -⟩
  rw [counters] at logs
  cases logs

end Engine

end BallotWatch
