/-
This file proves that a scan reports every ballot once and in the order of the chain. The blocks
from the first to the last committed one are covered by what was reported, and a tick that commits
a span reports the ballots of just that span. So whatever the newest blocks are and whichever
questions fail, the reports of all ticks make one list without a gap and without a ballot twice.
-/

import BallotWatch.Proofs.Scan.Config
import BallotWatch.Proofs.Scan.Ledger
import BallotWatch.Scan.Run

namespace BallotWatch

variable {NodeState SinkState : Type}

namespace Engine

variable {engine : Engine NodeState SinkState}

/-! ### What has been reported -/

/-- A notification is that of a ballot, as of some time. -/
def Tells (engine : Engine NodeState SinkState) (notification : Notification) (item : Found) :
    Prop :=
  ∃ generated, notification = engine.notification generated item

theorem forall₂_tells_map (generated : Instant) (items : List Found) :
    List.Forall₂ engine.Tells (items.map (engine.notification generated)) items := by
  rw [List.forall₂_map_left_iff, List.forall₂_same]
  exact fun item _ => ⟨generated, rfl⟩

/-- Some ballots are those of all blocks from the first to the one before the next. There are none
as long as the first block is not known. -/
def Covers (engine : Engine NodeState SinkState) (ledger : Ledger) (cursor : Cursor)
    (items : List Found) : Prop :=
  match cursor.start? with
  | none => cursor.lastCommitted? = none ∧ items = []
  | some first =>
    0 ≤ first ∧ ∃ next, cursor.next = .ok next ∧ first ≤ next ∧
      ledger.Lists engine.contracts first (next - 1) items

variable {ledger : Ledger} {cursor : Cursor} {items : List Found} {first next tip : Int}

/-- For a cursor that has its place, what is covered are the blocks from the first to the one before
the next. -/
theorem covers_of_start (start : cursor.start? = some first) :
    engine.Covers ledger cursor items ↔
      0 ≤ first ∧ ∃ next, cursor.next = .ok next ∧ first ≤ next ∧
        ledger.Lists engine.contracts first (next - 1) items := by
  unfold Covers
  rw [start]

/-- A new cursor covers nothing. -/
theorem covers_new (nonneg : 0 ≤ first) : engine.Covers ledger ⟨some first, none⟩ [] :=
  (covers_of_start rfl).mpr
    ⟨nonneg, first, rfl, Int.le_refl first,
      Ledger.lists_nil (Int.sub_one_lt_of_le (Int.le_refl first))⟩

/-- The place on the chain with which a tick goes on covers what was covered. -/
theorem Covers.goesOn {scan : Scan NodeState SinkState}
    (covers : engine.Covers ledger scan.cursor items) (goesOn : engine.GoesOnAt scan cursor)
    (blocks : engine.node.TellsBlocks) : engine.Covers ledger cursor items := by
  rcases goesOn with rfl | ⟨unplaced, tip, place, told, anchored⟩
  · exact covers
  · obtain ⟨first, start, rfl⟩ := Cursor.anchored_eq_ok anchored
    unfold Covers at covers
    rw [Cursor.start?_of_not_isAnchored unplaced] at covers
    rw [covers.2]
    exact covers_new (StartMode.first_nonneg start (blocks _ tip told))

/-- A commit covers the ballots of its span as well. -/
theorem Covers.committed {range : BlockRange} {later : List Found}
    (covers : engine.Covers ledger cursor items) (isNext : cursor.next = .ok range.first)
    (lists : ledger.Lists engine.contracts range.first range.last later) :
    engine.Covers ledger { cursor with lastCommitted? := some range.last } (items ++ later) := by
  obtain ⟨first, start⟩ := Cursor.start?_of_next isNext
  obtain ⟨nonneg, next, same, begins, soFar⟩ := (covers_of_start start).mp covers
  rw [isNext] at same
  obtain rfl : range.first = next := Except.ok.inj same
  have bounds := range.ordered
  have startKept : ({ cursor with lastCommitted? := some range.last } : Cursor).start? =
      some first := start
  refine (covers_of_start startKept).mpr
    ⟨nonneg, range.last + 1, Cursor.next_committed isNext range.last, by omega, ?_⟩
  rw [Int.add_sub_cancel]
  refine Ledger.Lists.append soFar ?_ (by omega) (by omega)
  rw [Int.sub_add_cancel]
  exact lists

/-! ### A tick -/

section Reports

variable (serves : engine.node.Serves ledger)
  (apart : engine.contracts.Pairwise fun one other => one.layout.topic ≠ other.layout.topic)
  (unlimited : engine.config.limit? = none) (contained : engine.sink.IsContained)

include serves apart unlimited contained in
/-- The step: whatever the node answers, a tick reports the ballots that its cursor moves past. -/
theorem tick_adds {scan : Scan NodeState SinkState}
    (covers : engine.Covers ledger scan.cursor items) :
    ∃ later, engine.Covers ledger (engine.tick scan).2.cursor (items ++ later) ∧
      List.Forall₂ engine.Tells (returned (engine.tick scan).1) later ∧
        (engine.tick scan).2.attempts = scan.attempts ++ returned (engine.tick scan).1 := by
  obtain ⟨cursor, goesOn, ⟨kept, nothing⟩ |
    ⟨tip, range, found, anchored, collected, -, handed, collects, kept, finishes⟩⟩ :=
    engine.tick_cases scan
  · rw [kept.cursor, kept.attempts, nothing]
    refine ⟨[], ?_, List.Forall₂.nil, (List.append_nil _).symm⟩
    rw [List.append_nil]
    exact covers.goesOn goesOn serves.blocks
  · have isNext := next_of_kept handed kept
    have lists :=
      Ledger.lists_sortByPosition apart (collect_found serves (congrArg Prod.fst collects))
    obtain ⟨ended, attempts⟩ := finish_contained unlimited contained isNext found
    have behind := (engine.finish_cursor_calls found isNext).1
    rw [finishes, ended, behind, attempts, kept.cursor, kept.attempts]
    refine ⟨_, ?_, forall₂_tells_map _ _, rfl⟩
    exact (covers.goesOn goesOn serves.blocks).committed (Cursor.next_of_nextRange handed).1 lists

end Reports

/-! ### Where the reports begin -/

/-- A tick gives the scan its first place on the chain, and the next block there is the first. -/
def PlacesAt (engine : Engine NodeState SinkState) (scan : Scan NodeState SinkState)
    (first : Int) : Prop :=
  scan.cursor.isAnchored = false ∧
    ∃ tip place cursor, (engine.askTip scan.begun).1 = .ok tip ∧
      Cursor.anchored engine.config.start tip = .ok (place, cursor) ∧ cursor.next = .ok first

/-- A tick leaves the first block as it is, or finds it out. -/
theorem tick_start_cases (engine : Engine NodeState SinkState)
    (scan : Scan NodeState SinkState) :
    (engine.tick scan).2.cursor.start? = scan.cursor.start? ∨
      ∃ first, engine.PlacesAt scan first ∧ (engine.tick scan).2.cursor.start? = some first := by
  obtain ⟨cursor, goesOn, moved⟩ := engine.tick_cursor_cases scan
  have start : (engine.tick scan).2.cursor.start? = cursor.start? := by
    rcases moved with same | ⟨_, range, _, _, same⟩
    · rw [same]
    · rw [same]
  rw [start]
  rcases goesOn with rfl | ⟨unplaced, tip, place, told, anchored⟩
  · exact Or.inl rfl
  · obtain ⟨first, -, rfl⟩ := Cursor.anchored_eq_ok anchored
    exact Or.inr ⟨first, ⟨unplaced, tip, place, _, told, anchored, rfl⟩, rfl⟩

/-- What was reported is nothing, as long as nothing was committed, and then the list of the
ballots from a first block to the last one committed. -/
structure Reports (engine : Engine NodeState SinkState) (ledger : Ledger) (isFirst : Int → Prop)
    (last? : Option Int) (notifications : List Notification) : Prop where
  nothing : last? = none → notifications = []
  upTo : ∀ last, last? = some last →
    ∃ first items, isFirst first ∧ ledger.Lists engine.contracts first last items ∧
      List.Forall₂ engine.Tells notifications items

theorem reports_of_covers {isFirst : Int → Prop} {notifications : List Notification}
    (covers : engine.Covers ledger cursor items)
    (tells : List.Forall₂ engine.Tells notifications items)
    (start : ∀ first, cursor.start? = some first → isFirst first) :
    engine.Reports ledger isFirst cursor.lastCommitted? notifications := by
  cases known : cursor.start? with
  | none =>
    unfold Covers at covers
    rw [known] at covers
    obtain ⟨nothing, rfl⟩ := covers
    refine ⟨fun _ => List.forall₂_nil_right_iff.mp tells, fun last committed => ?_⟩
    rw [nothing] at committed
    cases committed
  | some first =>
    obtain ⟨-, next, isNext, -, lists⟩ := (covers_of_start known).mp covers
    unfold Cursor.next at isNext
    rw [known] at isNext
    constructor
    · intro nothing
      rw [nothing] at isNext
      cases isNext
      rw [lists.eq_nil (Int.sub_one_lt_of_le (Int.le_refl first))] at tells
      exact List.forall₂_nil_right_iff.mp tells
    · intro last committed
      rw [committed] at isNext
      cases isNext
      rw [Int.add_sub_cancel] at lists
      exact ⟨first, items, start first known, lists, tells⟩

/-! ### Ticks one after another -/

/-- The scan after so many ticks. -/
def after (engine : Engine NodeState SinkState) (scan : Scan NodeState SinkState) :
    Nat → Scan NodeState SinkState
  | 0 => scan
  | count + 1 => (engine.tick (engine.after scan count)).2

/-- What so many ticks have returned, one list after another. -/
def returnedBy (engine : Engine NodeState SinkState) (scan : Scan NodeState SinkState) :
    Nat → List Notification
  | 0 => []
  | count + 1 =>
    engine.returnedBy scan count ++ returned (engine.tick (engine.after scan count)).1

/-- The induction is on the number of ticks. What was returned so far are the ballots that the
cursor covers, and the first block was found out by one of the ticks. -/
theorem after_covers (serves : engine.node.Serves ledger)
    (apart : engine.contracts.Pairwise fun one other => one.layout.topic ≠ other.layout.topic)
    (unlimited : engine.config.limit? = none) (contained : engine.sink.IsContained)
    {scan : Scan NodeState SinkState} (fresh : scan.cursor = {}) (count : Nat) :
    ∃ items, engine.Covers ledger (engine.after scan count).cursor items ∧
      List.Forall₂ engine.Tells (engine.returnedBy scan count) items ∧
      ∀ first, (engine.after scan count).cursor.start? = some first →
        ∃ tick < count, engine.PlacesAt (engine.after scan tick) first := by
  induction count with
  | zero =>
    rw [after, fresh]
    refine ⟨[], ⟨rfl, rfl⟩, List.Forall₂.nil, fun first start => ?_⟩
    cases start
  | succ count inductionHypothesis =>
    obtain ⟨items, covers, tells, placed⟩ := inductionHypothesis
    obtain ⟨later, coversLater, tellsLater, -⟩ :=
      tick_adds serves apart unlimited contained covers
    refine ⟨items ++ later, coversLater, List.rel_append tells tellsLater, fun first start => ?_⟩
    rcases engine.tick_start_cases (engine.after scan count) with same | ⟨found, places, start'⟩
    · rw [after, same] at start
      obtain ⟨tick, before, places⟩ := placed first start
      exact ⟨tick, Nat.lt_succ_of_lt before, places⟩
    · rw [after, start'] at start
      cases start
      exact ⟨count, Nat.lt_succ_self count, places⟩

/-! ### Runs -/

/-- A run that began at a block has handed on the ballots that its cursor covers. -/
structure HasHandedOn (engine : Engine NodeState SinkState) (ledger : Ledger) (first : Int)
    (scan : Scan NodeState SinkState) (items : List Found) : Prop where
  start : scan.cursor.start? = some first
  covers : engine.Covers ledger scan.cursor items
  tells : List.Forall₂ engine.Tells scan.attempts items

/-- A tick hands on the ballots of the blocks that it adds to those covered. -/
theorem HasHandedOn.tick (serves : engine.node.Serves ledger)
    (apart : engine.contracts.Pairwise fun one other => one.layout.topic ≠ other.layout.topic)
    (unlimited : engine.config.limit? = none) (contained : engine.sink.IsContained)
    {scan : Scan NodeState SinkState} (handed : engine.HasHandedOn ledger first scan items) :
    ∃ items, engine.HasHandedOn ledger first (engine.tick scan).2 items := by
  obtain ⟨later, covers, tells, attempts⟩ :=
    tick_adds serves apart unlimited contained handed.covers
  refine ⟨items ++ later, ?_, covers, ?_⟩
  · rcases engine.tick_start_cases scan with same | ⟨other, ⟨unknown, -⟩, -⟩
    · exact same.trans handed.start
    · rw [Cursor.isAnchored, handed.start] at unknown
      cases unknown
  · rw [attempts]
    exact List.rel_append handed.tells tells

theorem HasHandedOn.tickAll (serves : engine.node.Serves ledger)
    (apart : engine.contracts.Pairwise fun one other => one.layout.topic ≠ other.layout.topic)
    (unlimited : engine.config.limit? = none) (contained : engine.sink.IsContained)
    {scan : Scan NodeState SinkState} (handed : engine.HasHandedOn ledger first scan items) :
    ∃ items, engine.HasHandedOn ledger first (engine.tickAll scan).2 items := by
  fun_induction Engine.tickAll engine scan generalizing items with
  | case1 => exact ⟨items, handed⟩
  | case2 scan _ fault after ticked =>
    have step := handed.tick serves apart unlimited contained
    rw [ticked] at step
    exact step
  | case3 scan _ notifications after ticked =>
    have step := handed.tick serves apart unlimited contained
    rw [ticked] at step
    exact step
  | case4 scan _ notifications after ticked _ _ inductionHypothesis =>
    have step := handed.tick serves apart unlimited contained
    rw [ticked] at step
    obtain ⟨more, handedMore⟩ := step
    exact inductionHypothesis handedMore

/-- Before its first tick a run has handed nothing on. It is placed on the chain, or it ends
without having moved. -/
theorem settle_cases (blocks : engine.node.TellsBlocks) (scan : Scan NodeState SinkState) :
    (engine.settle scan).2.attempts = scan.attempts ∧
      ((∃ first, 0 ≤ first ∧ (engine.settle scan).1 = .ok true ∧
          (engine.settle scan).2.cursor = ⟨some first, none⟩) ∨
        (engine.settle scan).1 ≠ .ok true ∧ (engine.settle scan).2.cursor = scan.cursor) := by
  fun_induction Engine.settle engine scan with
  | case1 => exact ⟨rfl, Or.inr ⟨nofun, rfl⟩⟩
  | case2 scan _ tip asked told =>
    have kept := engine.askTip_kept scan
    rw [told] at kept
    exact ⟨kept.attempts, Or.inr ⟨nofun, kept.cursor⟩⟩
  | case3 scan _ tip asked told place first start =>
    have kept := engine.askTip_kept scan
    have tips := blocks scan.node tip
    have asks : (engine.askTip scan).1 = (engine.node.tip scan.node).1.result := rfl
    rw [told] at kept asks
    exact ⟨kept.attempts,
      Or.inl ⟨first, StartMode.first_nonneg start (tips asks.symm), rfl, rfl⟩⟩
  | case4 scan _ fault asked told =>
    have kept := engine.askTip_kept scan
    rw [told] at kept
    exact ⟨kept.attempts, Or.inr ⟨nofun, kept.cursor⟩⟩
  | case5 scan _ fault asked told level text _ _ _ inductionHypothesis =>
    have kept := engine.askTip_kept scan
    rw [told] at kept
    obtain ⟨attempts, ended⟩ := inductionHypothesis
    refine ⟨attempts.trans kept.attempts, ?_⟩
    rcases ended with placed | ⟨unplaced, cursor⟩
    · exact Or.inl placed
    · exact Or.inr ⟨unplaced, cursor.trans kept.cursor⟩
  | case6 scan _ fault asked told level text =>
    have kept := engine.askTip_kept scan
    rw [told] at kept
    exact ⟨kept.attempts, Or.inr ⟨nofun, kept.cursor⟩⟩

/-- A whole run, with its placing before the first tick, reports what it has covered. -/
theorem run_reports (serves : engine.node.Serves ledger)
    (apart : engine.contracts.Pairwise fun one other => one.layout.topic ≠ other.layout.topic)
    (unlimited : engine.config.limit? = none) (contained : engine.sink.IsContained)
    {scan : Scan NodeState SinkState} (fresh : scan.cursor = {}) (empty : scan.attempts = []) :
    engine.Reports ledger (fun first => (engine.settle scan).2.cursor.next = .ok first)
      (engine.run scan).2.cursor.lastCommitted? (engine.run scan).2.attempts := by
  obtain ⟨attempts, placed⟩ := engine.settle_cases serves.blocks scan
  unfold run
  rcases settled : engine.settle scan with ⟨result, begun⟩
  rw [settled] at attempts placed
  rcases placed with ⟨first, nonneg, rfl, cursor⟩ | ⟨unplaced, cursor⟩
  · have handed : engine.HasHandedOn ledger first begun [] := by
      constructor
      · rw [cursor]
      · rw [cursor]
        exact covers_new nonneg
      · rw [attempts, empty]
        exact List.Forall₂.nil
    obtain ⟨items, final⟩ := handed.tickAll serves apart unlimited contained
    refine reports_of_covers final.covers final.tells fun other start => ?_
    rw [final.start] at start
    cases start
    rw [cursor]
    rfl
  · have nothing : begun.cursor.lastCommitted? = none := by
      rw [cursor, fresh]
    rw [empty] at attempts
    have ended : ∀ isFirst, engine.Reports ledger isFirst begun.cursor.lastCommitted?
        begun.attempts := by
      intro isFirst
      refine ⟨fun _ => attempts, fun last committed => ?_⟩
      rw [nothing] at committed
      cases committed
    match result with
    | .error fault => exact ended _
    | .ok false => exact ended _
    | .ok true => exact absurd rfl unplaced

theorem make_eq_ok {config : WatchConfig} {registry : Registry} {node : NodeAccess NodeState}
    {sink : Sink SinkState} (accepted : Engine.make config registry node sink = .ok engine) :
    config = engine.config ∧ node = engine.node ∧ sink = engine.sink ∧
      config.contracts registry = .ok engine.contracts := by
  unfold Engine.make at accepted
  cases found : config.contracts registry with
  | error fault =>
    rw [found] at accepted
    cases accepted
  | ok contracts =>
    rw [found] at accepted
    cases accepted
    exact ⟨rfl, rfl, rfl, rfl⟩

/-- Without a limit, over a node that serves a ledger and a sink that only fails to deliver, the
reports are the ballots of the ledger from the first block to the last committed one, in the order
of the chain and each once. This holds of what any number of ticks return and of what a run hands
on, for every configuration with known layouts. -/
theorem reports_each_once {config : WatchConfig} {node : NodeAccess NodeState}
    {sink : Sink SinkState}
    (accepted : Engine.make config Registry.standard node sink = .ok engine)
    (unlimited : config.limit? = none) (serves : node.Serves ledger)
    (contained : sink.IsContained) (nodeState : NodeState) (sinkState : SinkState) (clock : Clock)
    (stopped : Bool) :
    let fresh : Scan NodeState SinkState :=
      { node := nodeState, sink := sinkState, clock, stopped }
    (∀ count, engine.Reports ledger
        (fun first => ∃ tick < count, engine.PlacesAt (engine.after fresh tick) first)
        (engine.after fresh count).cursor.lastCommitted? (engine.returnedBy fresh count)) ∧
      engine.Reports ledger (fun first => (engine.settle fresh).2.cursor.next = .ok first)
        (engine.run fresh).2.cursor.lastCommitted? (engine.run fresh).2.attempts := by
  intro fresh
  obtain ⟨rfl, rfl, rfl, found⟩ := make_eq_ok accepted
  have apart := WatchConfig.contracts_apart found
  have unplaced : fresh.cursor = {} := rfl
  have empty : fresh.attempts = [] := rfl
  constructor
  · intro count
    obtain ⟨items, covers, tells, placed⟩ :=
      after_covers serves apart unlimited contained unplaced count
    exact reports_of_covers covers tells placed
  · exact run_reports serves apart unlimited contained unplaced empty

/-- Of two ticks up to one block the first reports the ballot before it, and the second nothing. -/
theorem reports_each_once_of_one_ballot :
    let layout := Registry.eventLayout .threshold .v2
    let entry : LogEntry := ⟨"0x00", [layout.topic], List.replicate 224 0, 3, 0, ""⟩
    let ledger : Ledger := ⟨[entry], List.nodup_singleton _, fun one other => one == other⟩
    let config : WatchConfig :=
      { network := .core, endpoint := "", version := .v2, kinds := [.threshold]
        addresses := [(.threshold, "0x00")], start := .earliest, pollInterval := default }
    let node := NodeAccess.constant 7 fun query => .ok (ledger.answer query)
    let engine : Engine Nat Unit :=
      ⟨config, [⟨.threshold, "0x00", layout⟩], node, fun _ state => ({}, state)⟩
    let fresh : Scan Nat Unit := { node := 3, sink := () }
    (engine.returnedBy fresh 2).map Notification.block = [3] ∧
      (∃ first items, ledger.Lists engine.contracts first 7 items ∧
        List.Forall₂ engine.Tells (engine.returnedBy fresh 2) items) ∧
      engine.Reports ledger (fun first => (engine.settle fresh).2.cursor.next = .ok first)
        (engine.run fresh).2.cursor.lastCommitted? (engine.run fresh).2.attempts := by
  intro layout entry ledger config node engine
  have known : config.monitored Registry.standard .threshold =
      .ok ⟨.threshold, "0x00", layout⟩ := by
    have present : Registry.standard.layout .threshold config.version = .ok layout :=
      Registry.layout_of_listed (by decide)
    rw [WatchConfig.monitored, present]
    rfl
  have accepted : Engine.make config Registry.standard node engine.sink = .ok engine := by
    have all : config.contracts Registry.standard = .ok [⟨.threshold, "0x00", layout⟩] := by
      have selected : ContractKind.inScanOrder config.kinds = [.threshold] := rfl
      rw [WatchConfig.contracts, if_neg (by decide), if_pos (by decide), selected,
        WatchConfig.monitoredAll, known]
      rfl
    rw [Engine.make, all]
    rfl
  have serves : node.Serves ledger := by
    refine ⟨NodeAccess.constant_tellsBlocks 7 _, fun query state entries answered => ?_⟩
    cases answered
    exact List.Perm.refl _
  have contained : engine.sink.IsContained := by
    intro notification state fault refused
    cases refused
  obtain ⟨ticks, run⟩ := reports_each_once accepted rfl serves contained 3 () {} false
  have committed :
      (engine.after { node := 3, sink := () } 2).cursor.lastCommitted? = some 7 := by
    decide +kernel
  obtain ⟨first, items, -, lists, tells⟩ := (ticks 2).upTo 7 committed
  refine ⟨?_, ⟨first, items, lists, tells⟩, run⟩
  decide +kernel

end Engine

end BallotWatch
