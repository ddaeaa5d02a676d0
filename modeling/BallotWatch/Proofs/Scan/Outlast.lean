/-
This file compares a run with the same run over a node and a sink that answer alike and ask to stop
later or not at all. As long as a tick is in progress both runs do the same, whether they were asked
to stop or not. Where the one that was asked to stop is over, the other stands between two ticks.
-/

import BallotWatch.Proofs.Scan.Step

namespace BallotWatch

variable {NodeState SinkState : Type}

/-! ### Asking to stop later -/

/-- What a node answers, but with a request to stop only if there is one in the other answer. -/
def Outcome.Outlasts {Answer State : Type} (later told : Outcome Answer × State) : Prop :=
  ∃ stop, later = ({ told.1 with stop }, told.2) ∧ (stop = true → told.1.stop = true)

/-- A node that answers like another and asks to stop only where that one does. -/
structure NodeAccess.Outlasts (later node : NodeAccess NodeState) : Prop where
  tip : ∀ state, Outcome.Outlasts (later.tip state) (node.tip state)
  logs : ∀ query state, Outcome.Outlasts (later.logs query state) (node.logs query state)

/-- A sink that takes notifications like another and asks to stop only where that one does. -/
def Sink.Outlasts (later sink : Sink SinkState) : Prop :=
  ∀ notification state, ∃ stop,
    later notification state =
        ({ (sink notification state).1 with stop }, (sink notification state).2) ∧
      (stop = true → (sink notification state).1.stop = true)

/-- The scan that another is, but asked to stop only if that one is. -/
def Scan.Outlasts (later scan : Scan NodeState SinkState) : Prop :=
  ∃ stopped, later = { scan with stopped } ∧ (stopped = true → scan.stopped = true)

/-- What is about to be done is the same. -/
def Moment.Outlasts (later moment : Moment NodeState SinkState) : Prop :=
  later.stage = moment.stage ∧ later.scan.Outlasts moment.scan

/-- A moment of a run that is asked to stop later is abreast of a moment of a run if the same is
about to be done, or if the run is over after a request to stop and the other stands between two
ticks with the same done. -/
def Moment.IsAbreastOf (later moment : Moment NodeState SinkState) : Prop :=
  later.Outlasts moment ∨
    moment.stage = .ended (.ok ()) ∧ moment.scan.stopped = true ∧ later.stage.IsBetweenTicks ∧
      later.scan.Outlasts moment.scan

/-- The results of two steps are the same. -/
def Scan.OutlastsWith {Value : Type} (later outcome : Value × Scan NodeState SinkState) : Prop :=
  later.1 = outcome.1 ∧ later.2.Outlasts outcome.2

/-- An engine over another node and sink. -/
def Engine.withParts (engine : Engine NodeState SinkState) (node : NodeAccess NodeState)
    (sink : Sink SinkState) : Engine NodeState SinkState :=
  { engine with node, sink }

theorem Scan.Outlasts.going {later scan : Scan NodeState SinkState}
    (outlasts : later.Outlasts scan) (going : scan.stopped = false) : later = scan := by
  obtain ⟨stopped, rfl, stops⟩ := outlasts
  have same : stopped = scan.stopped := by
    cases stopped with
    | false => exact going.symm
    | true => exact (stops rfl).symm
  rw [same]

theorem Scan.OutlastsWith.eq {Value : Type} {later outcome : Value × Scan NodeState SinkState}
    (outlasts : Scan.OutlastsWith later outcome) :
    ∃ stopped, later = (outcome.1, { outcome.2 with stopped }) ∧
      (stopped = true → outcome.2.stopped = true) := by
  obtain ⟨sameResult, stopped, sameScan, stops⟩ := outlasts
  exact ⟨stopped, Prod.ext sameResult sameScan, stops⟩

theorem Moment.Outlasts.behind {Value : Type} (stage : Stage)
    {later outcome : Except Fault Value × Scan NodeState SinkState}
    (outlasts : Scan.OutlastsWith later outcome) :
    (Moment.behind stage later).Outlasts (Moment.behind stage outcome) := by
  obtain ⟨stopped, rfl, stops⟩ := outlasts.eq
  rcases outcome with ⟨fault | value, scan⟩
  · exact ⟨rfl, stopped, rfl, stops⟩
  · exact ⟨rfl, stopped, rfl, stops⟩

theorem Moment.Outlasts.behindAsking (range : BlockRange) (rest : List Monitored)
    (found : List Found)
    {later outcome : Except Fault (Option (List Found)) × Scan NodeState SinkState}
    (outlasts : Scan.OutlastsWith later outcome) :
    (Moment.behindAsking range rest found later).Outlasts
      (Moment.behindAsking range rest found outcome) := by
  obtain ⟨stopped, rfl, stops⟩ := outlasts.eq
  rcases outcome with ⟨fault | _ | more, scan⟩
  · exact ⟨rfl, stopped, rfl, stops⟩
  · exact ⟨rfl, stopped, rfl, stops⟩
  · exact ⟨rfl, stopped, rfl, stops⟩

theorem stops_or {laterStopped stopped laterStop stop : Bool}
    (before : laterStopped = true → stopped = true) (now : laterStop = true → stop = true) :
    (laterStopped || laterStop) = true → (stopped || stop) = true := by
  rw [Bool.or_eq_true, Bool.or_eq_true]
  exact Or.imp before now

namespace Engine

/-! ### Steps over a node and a sink that ask to stop later -/

section Steps

variable {engine : Engine NodeState SinkState} {node : NodeAccess NodeState}
  {sink : Sink SinkState} {later scan : Scan NodeState SinkState}
  (nodeOutlasts : node.Outlasts engine.node) (sinkOutlasts : sink.Outlasts engine.sink)
  (outlasts : later.Outlasts scan)

include nodeOutlasts outlasts in
theorem askTip_outlasts (sink : Sink SinkState) :
    Scan.OutlastsWith ((engine.withParts node sink).askTip later) (engine.askTip scan) := by
  obtain ⟨stopped, rfl, stops⟩ := outlasts
  obtain ⟨stop, told, laterStops⟩ := nodeOutlasts.tip scan.node
  simp only [askTip, withParts, told]
  exact ⟨rfl, _, rfl, stops_or stops laterStops⟩

include nodeOutlasts outlasts in
theorem askLogs_outlasts (query : Node.LogQuery) (sink : Sink SinkState) :
    Scan.OutlastsWith ((engine.withParts node sink).askLogs query later)
      (engine.askLogs query scan) := by
  obtain ⟨stopped, rfl, stops⟩ := outlasts
  obtain ⟨stop, told, laterStops⟩ := nodeOutlasts.logs query scan.node
  simp only [askLogs, withParts, told]
  exact ⟨rfl, _, rfl, stops_or stops laterStops⟩

include outlasts in
theorem decodeEntries_outlasts (layout : Layout) (entries : List LogEntry) :
    Scan.OutlastsWith (decodeEntries layout entries later) (decodeEntries layout entries scan) := by
  induction entries generalizing later scan with
  | nil => exact ⟨rfl, outlasts⟩
  | cons entry rest inductionHypothesis =>
    obtain ⟨stopped, rfl, stops⟩ := outlasts
    cases decoded : layout.decode entry with
    | ok ballot =>
      rw [decodeEntries_of_ok decoded, decodeEntries_of_ok decoded]
      obtain ⟨result, others⟩ := @inductionHypothesis
        { scan.withDecoded with stopped } scan.withDecoded ⟨stopped, rfl, stops⟩
      exact ⟨congrArg (Except.map _) result, others⟩
    | error fault =>
      by_cases ofEntry : fault.isOfEntry = true
      · rw [decodeEntries_of_skipped decoded ofEntry, decodeEntries_of_skipped decoded ofEntry]
        exact inductionHypothesis ⟨stopped, rfl, stops⟩
      · rw [decodeEntries_of_fault decoded ofEntry, decodeEntries_of_fault decoded ofEntry]
        exact ⟨rfl, stopped, rfl, stops⟩

include nodeOutlasts outlasts in
/-- The asking goes through all contracts, whether a stop is asked for meanwhile or not. -/
theorem collect_outlasts (sink : Sink SinkState) (range : BlockRange) (contracts : List Monitored) :
    Scan.OutlastsWith ((engine.withParts node sink).collect range contracts later)
      (engine.collect range contracts scan) := by
  induction contracts generalizing later scan with
  | nil => exact ⟨rfl, outlasts⟩
  | cons contract rest inductionHypothesis =>
    obtain ⟨stopped, laterAnswered, stops⟩ :=
      (askLogs_outlasts nodeOutlasts outlasts (contract.query range) sink).eq
    rcases answered : engine.askLogs (contract.query range) scan with ⟨fault | entries, asked⟩
    · rw [answered] at laterAnswered stops
      unfold Monitored.query at laterAnswered answered
      rw [collect, laterAnswered, collect, answered]
      obtain ⟨kind, message⟩ := fault
      cases kind <;> exact ⟨rfl, stopped, rfl, stops⟩
    · rw [answered] at laterAnswered stops
      have receives : Scan.Outlasts (Scan.received { asked with stopped } entries)
          (asked.received entries) := ⟨stopped, rfl, stops⟩
      obtain ⟨stillStopped, laterRead, stillStops⟩ :=
        (decodeEntries_outlasts receives contract.layout entries).eq
      rcases read : decodeEntries contract.layout entries (asked.received entries)
        with ⟨fault | found, decoded⟩
      · rw [read] at laterRead stillStops
        rw [collect_of_unread laterAnswered laterRead, collect_of_unread answered read]
        exact ⟨rfl, stillStopped, rfl, stillStops⟩
      · rw [read] at laterRead stillStops
        rw [collect_of_read laterAnswered laterRead, collect_of_read answered read]
        obtain ⟨result, others⟩ := @inductionHypothesis
          { decoded with stopped := stillStopped } decoded ⟨stillStopped, rfl, stillStops⟩
        exact ⟨congrArg (Except.map _) result, others⟩

include sinkOutlasts outlasts in
/-- A notification is handed on alike, though one of the sinks may ask to stop. -/
theorem hand_outlasts (node : NodeAccess NodeState) (notification : Notification) :
    Scan.OutlastsWith ((engine.withParts node sink).hand notification later)
      (engine.hand notification scan) := by
  obtain ⟨stopped, rfl, stops⟩ := outlasts
  obtain ⟨stop, told, laterStops⟩ := sinkOutlasts notification scan.sink
  rcases handed : engine.sink notification scan.sink with ⟨⟨result, given, records⟩, after⟩
  rw [handed] at told laterStops
  simp only [hand, withParts, told, handed]
  cases result with
  | ok _ => exact ⟨rfl, _, rfl, stops_or stops laterStops⟩
  | error fault =>
    dsimp only
    split
    · exact ⟨rfl, _, rfl, stops_or stops laterStops⟩
    · exact ⟨rfl, _, rfl, stops_or stops laterStops⟩

theorem countNotification_stopped (engine : Engine NodeState SinkState)
    (scan : Scan NodeState SinkState) (stopped : Bool) :
    engine.countNotification { scan with stopped } =
        { engine.countNotification scan with stopped } ∧
      (engine.countNotification scan).stopped = scan.stopped := by
  rw [countNotification_eq, countNotification_eq]
  cases engine.config.limit? with
  | none => exact ⟨rfl, rfl⟩
  | some limit =>
    dsimp only
    split <;> exact ⟨rfl, rfl⟩

/-! ### One step over them -/

include nodeOutlasts outlasts in
theorem place_outlasts (sink : Sink SinkState) :
    ((engine.withParts node sink).place later).Outlasts (engine.place scan) := by
  obtain ⟨stopped, same, stops⟩ := (askTip_outlasts nodeOutlasts outlasts sink).eq
  have config : (engine.withParts node sink).config = engine.config := rfl
  rw [place, place, config, same]
  revert stops
  rcases engine.askTip scan with ⟨fault | tip, asked⟩
  · dsimp only
    cases initialTrouble? fault <;> exact fun stops => ⟨rfl, stopped, rfl, stops⟩
  · dsimp only
    cases engine.config.start.anchor tip <;> exact fun stops => ⟨rfl, stopped, rfl, stops⟩

include outlasts in
theorem anchor_outlasts (engine : Engine NodeState SinkState) (node : NodeAccess NodeState)
    (sink : Sink SinkState) (tip : Int) :
    Scan.OutlastsWith ((engine.withParts node sink).anchor tip later) (engine.anchor tip scan) := by
  obtain ⟨stopped, rfl, stops⟩ := outlasts
  have config : (engine.withParts node sink).config = engine.config := rfl
  rw [anchor, anchor, config]
  dsimp only
  split
  · exact ⟨rfl, stopped, rfl, stops⟩
  · split <;> exact ⟨rfl, stopped, rfl, stops⟩

theorem tick_of_refused {asked : Scan NodeState SinkState} {fault : Fault}
    (refused : engine.askTip scan.begun = (.error fault, asked)) {stopped : Bool}
    (stops : stopped = true → asked.stopped = true)
    (alsoRefused : (engine.withParts node sink).askTip later.begun =
      (.error fault, { asked with stopped })) :
    Scan.OutlastsWith ((engine.withParts node sink).tick later) (engine.tick scan) := by
  unfold Scan.begun at refused alsoRefused
  rw [tick, tick, refused, alsoRefused]
  obtain ⟨kind, message⟩ := fault
  cases kind <;> exact ⟨rfl, stopped, rfl, stops⟩

include outlasts in
/-- A tick with nothing to ask about. -/
theorem advance_outlasts (engine : Engine NodeState SinkState) (node : NodeAccess NodeState)
    (sink : Sink SinkState) {tip : Int}
    (idle : ∀ range, scan.cursor.nextRange tip ≠ .ok (some range)) :
    Scan.OutlastsWith ((engine.withParts node sink).advance tip later) (engine.advance tip scan) := by
  obtain ⟨stopped, rfl, stops⟩ := outlasts
  rw [advance, advance]
  cases handed : scan.cursor.nextRange tip with
  | error reason => exact ⟨rfl, stopped, rfl, stops⟩
  | ok range? =>
    cases range? with
    | none => exact ⟨rfl, stopped, rfl, stops⟩
    | some range => exact absurd handed (idle range)

include nodeOutlasts outlasts in
theorem begin_outlasts (sink : Sink SinkState) :
    ((engine.withParts node sink).begin later).Outlasts (engine.begin scan) := by
  obtain ⟨stopped, rfl, stops⟩ := outlasts
  have begins : Scan.Outlasts (Scan.begun { scan with stopped }) scan.begun :=
    ⟨stopped, rfl, stops⟩
  obtain ⟨stopped, laterTold, stops⟩ := (askTip_outlasts nodeOutlasts begins sink).eq
  unfold begin
  rw [laterTold]
  rcases told : engine.askTip scan.begun with ⟨fault | tip, asked⟩
  · rw [told] at laterTold stops
    exact .behind .resting (tick_of_refused told stops laterTold)
  · rw [told] at stops
    have places : Scan.Outlasts { asked with stopped } asked := ⟨stopped, rfl, stops⟩
    obtain ⟨stopped, laterPlaced, stops⟩ := (anchor_outlasts places engine node sink tip).eq
    dsimp only
    rw [laterPlaced]
    revert stops
    rcases engine.anchor tip asked with ⟨fault | _, anchored⟩
    · exact fun stops => ⟨rfl, stopped, rfl, stops⟩
    · dsimp only
      intro stops
      split
      · exact ⟨rfl, stopped, rfl, stops⟩
      · rename_i idle
        exact .behind .resting (advance_outlasts ⟨stopped, rfl, stops⟩ engine node sink idle)

include outlasts in
theorem close_outlasts (engine : Engine NodeState SinkState) (node : NodeAccess NodeState)
    (sink : Sink SinkState) (range : BlockRange) (found : List Found) :
    ((engine.withParts node sink).close range found later).Outlasts
      (engine.close range found scan) := by
  obtain ⟨stopped, rfl, stops⟩ := outlasts
  unfold close notifications
  dsimp only
  split <;> exact ⟨rfl, stopped, rfl, stops⟩

include sinkOutlasts outlasts in
theorem handOne_outlasts (node : NodeAccess NodeState) (range : BlockRange)
    (notification : Notification) (rest : List Notification) :
    ((engine.withParts node sink).handOne range notification rest later).Outlasts
      (engine.handOne range notification rest scan) := by
  obtain ⟨stopped, same, stops⟩ := (hand_outlasts sinkOutlasts outlasts node notification).eq
  unfold handOne
  rw [same]
  revert stops
  rcases engine.hand notification scan with ⟨fault | _, handed⟩
  · exact fun stops => ⟨rfl, stopped, rfl, stops⟩
  · intro stops
    obtain ⟨counted, stays⟩ := engine.countNotification_stopped handed stopped
    have sameCount : (engine.withParts node sink).countNotification { handed with stopped } =
        { engine.countNotification handed with stopped } := counted
    have sameLimit : (engine.withParts node sink).atLimit
        { engine.countNotification handed with stopped } =
          engine.atLimit (engine.countNotification handed) := rfl
    have outlasts : Scan.Outlasts { engine.countNotification handed with stopped }
        (engine.countNotification handed) := ⟨stopped, rfl, fun stop => stays.trans (stops stop)⟩
    dsimp only
    rw [sameCount, sameLimit]
    split <;> exact ⟨rfl, outlasts⟩

end Steps

/-! ### Up to the end of the tick -/

section Abreast

variable {engine : Engine NodeState SinkState} {node : NodeAccess NodeState}
  {sink : Sink SinkState} {first later one moment : Moment NodeState SinkState}

/-- A step that does not look for a request to stop. -/
theorem next_outlasts (nodeOutlasts : node.Outlasts engine.node)
    (sinkOutlasts : sink.Outlasts engine.sink) (outlasts : later.Outlasts moment)
    (goesOn : moment.scan.stopped = false ∨ ¬moment.stage.IsBetweenTicks) :
    ((engine.withParts node sink).next later).Outlasts (engine.next moment) := by
  rcases later with ⟨laterStage, laterScan⟩
  rcases moment with ⟨stage, scan⟩
  obtain ⟨rfl, same⟩ : laterStage = stage ∧ laterScan.Outlasts scan := outlasts
  match laterStage with
  | .placing =>
    have going : scan.stopped = false := goesOn.resolve_right (not_not_intro trivial)
    obtain rfl := same.going going
    rw [next, next, going, if_neg Bool.false_ne_true, if_neg Bool.false_ne_true]
    exact place_outlasts nodeOutlasts same sink
  | .resting =>
    have going : laterScan = scan := same.going (goesOn.resolve_right (not_not_intro trivial))
    subst going
    rw [next, next]
    split
    · exact ⟨rfl, same⟩
    · exact begin_outlasts nodeOutlasts same sink
  | .asking range [] found => exact close_outlasts same engine node sink range found
  | .asking range (contract :: rest) found =>
    exact .behindAsking range rest found (collect_outlasts nodeOutlasts same sink range [contract])
  | .handing range [] => exact ⟨rfl, same⟩
  | .handing range (notification :: rest) =>
    exact handOne_outlasts sinkOutlasts same node range notification rest
  | .ended result => exact ⟨rfl, same⟩

/-- Between two ticks a request to stop ends the run. -/
theorem next_of_stopped (engine : Engine NodeState SinkState) (stopped : moment.scan.stopped = true)
    (between : moment.stage.IsBetweenTicks) :
    engine.next moment = ⟨.ended (.ok ()), moment.scan⟩ := by
  rcases moment with ⟨stage, scan⟩
  match stage with
  | .placing => exact if_pos stopped
  | .resting => exact if_pos ((Bool.or_eq_true _ _).mpr (Or.inr stopped))
  | .asking range rest found => exact between.elim
  | .handing range rest => exact between.elim
  | .ended result => exact between.elim

/-- The step: a moment that is abreast of another leads to one that is abreast of the next. -/
theorem next_abreast (nodeOutlasts : node.Outlasts engine.node)
    (sinkOutlasts : sink.Outlasts engine.sink) (abreast : later.IsAbreastOf moment) :
    ∃ after, (engine.withParts node sink).Leads later after ∧
      after.IsAbreastOf (engine.next moment) := by
  rcases abreast with outlasts | ⟨finished, stopped, between, same⟩
  -- A request to stop is looked at between two ticks only. There the one run ends, and the moment
  -- of the other stays where it is.
  · by_cases goesOn : moment.scan.stopped = false ∨ ¬moment.stage.IsBetweenTicks
    · exact ⟨_, leads_next later,
        Or.inl (next_outlasts nodeOutlasts sinkOutlasts outlasts goesOn)⟩
    · rw [not_or, not_not, Bool.not_eq_false] at goesOn
      obtain ⟨stopped, between⟩ := goesOn
      refine ⟨later, Leads.refl later, Or.inr ?_⟩
      rw [next_of_stopped engine stopped between]
      have sameStage : later.stage = moment.stage := outlasts.1
      rw [sameStage]
      exact ⟨rfl, stopped, between, outlasts.2⟩
  · rcases moment with ⟨stage, scan⟩
    obtain rfl : stage = .ended (.ok ()) := finished
    exact ⟨later, Leads.refl later, Or.inr ⟨rfl, stopped, between, same⟩⟩

/-- The run: from a moment that is abreast of another the later run leads to moments abreast of all
that follow. -/
theorem Leads.abreast (nodeOutlasts : node.Outlasts engine.node)
    (sinkOutlasts : sink.Outlasts engine.sink) (leads : engine.Leads one moment)
    (abreast : first.IsAbreastOf one) :
    ∃ later, (engine.withParts node sink).Leads first later ∧ later.IsAbreastOf moment := by
  unfold Leads at leads
  induction leads with
  | refl => exact ⟨first, Leads.refl first, abreast⟩
  | @tail moment following earlier isNext inductionHypothesis =>
    subst isNext
    obtain ⟨later, leads, keepsUp⟩ := inductionHypothesis
    obtain ⟨after, further, stillAbreast⟩ := next_abreast nodeOutlasts sinkOutlasts keepsUp
    exact ⟨after, leads.trans further, stillAbreast⟩

end Abreast

end Engine

end BallotWatch
