/-
This file compares a run that has a limit on notifications with the same run without one. Both
pass the same moments until the limit is reached. There the run with the limit is over: it has
handed on as many notifications as the limit says, the span of the last of them is committed, and
nothing is asked or handed on after it.
-/

import BallotWatch.Proofs.Ballot.Registry
import BallotWatch.Proofs.Scan.Step

namespace BallotWatch

variable {NodeState SinkState : Type}

/-- No notification is about to be handed to the sink. -/
def Stage.IsQuiet : Stage → Prop
  | .handing _ (_ :: _) => False
  | _ => True

namespace Engine

/-- An engine without its limit. -/
def unlimited (engine : Engine NodeState SinkState) : Engine NodeState SinkState :=
  { engine with config := { engine.config with limit? := none } }

/-! ### Steps that do not look at the limit -/

theorem begin_unlimited (engine : Engine NodeState SinkState) (scan : Scan NodeState SinkState) :
    engine.unlimited.begin scan = engine.begin scan := by
  unfold begin
  rcases told : engine.askTip scan.begun with ⟨result, asked⟩
  have alsoTold : engine.unlimited.askTip scan.begun = (result, asked) := told
  rw [alsoTold]
  cases result with
  | error fault =>
    have same : engine.unlimited.tick scan = engine.tick scan := by
      unfold Scan.begun at told alsoTold
      rw [tick, tick, told, alsoTold]
    simp only [same]
  | ok tip =>
    dsimp only
    rcases placed : engine.anchor tip asked with ⟨result, anchored⟩
    have alsoPlaced : engine.unlimited.anchor tip asked = (result, anchored) := placed
    rw [alsoPlaced]
    cases result with
    | error fault => rfl
    | ok _ =>
      dsimp only
      cases handed : anchored.cursor.nextRange tip with
      | error reason =>
        simp only [advance_of_error handed]
      | ok range? =>
        cases range? with
        | some range => rfl
        | none =>
          have same : engine.unlimited.advance tip anchored = engine.advance tip anchored := by
            rw [advance, advance, handed]
          simp only [same]

/-- A step that hands on nothing is the same with a limit and without one. -/
theorem next_unlimited {moment : Moment NodeState SinkState} (quiet : moment.stage.IsQuiet)
    (engine : Engine NodeState SinkState) :
    engine.unlimited.next moment = engine.next moment := by
  rcases moment with ⟨stage, scan⟩
  match stage with
  | .placing => rfl
  | .resting =>
    rw [next, next, begin_unlimited]
  | .asking range [] found => rfl
  | .asking range (contract :: rest) found =>
    have same : engine.unlimited.collect range [contract] scan =
        engine.collect range [contract] scan := rfl
    rw [next, next, same]
  | .handing range [] => rfl
  | .handing range (notification :: rest) => exact quiet.elim
  | .ended result => rfl

/-! ### Steps that hand on -/

section HandingOn

variable {engine : Engine NodeState SinkState} {limit : Nat} {range : BlockRange}
  {notification : Notification} {rest : List Notification} {scan : Scan NodeState SinkState}

theorem hand_counters (engine : Engine NodeState SinkState) (notification : Notification)
    (scan : Scan NodeState SinkState) :
    (engine.hand notification scan).2.counters.notifications = scan.counters.notifications ∧
      (engine.hand notification scan).2.limitReached = scan.limitReached := by
  unfold hand
  dsimp only
  repeat' split
  all_goals exact ⟨rfl, rfl⟩

theorem handOne_of_contained (contained : engine.sink.IsContained) :
    engine.handOne range notification rest scan =
      let counted := engine.countNotification (engine.hand notification scan).2
      if engine.atLimit counted then ⟨.resting, counted⟩ else ⟨.handing range rest, counted⟩ := by
  have accepted := engine.hand_contained contained notification scan
  unfold handOne
  revert accepted
  rcases engine.hand notification scan with ⟨result, handed⟩
  rintro rfl
  rfl

theorem handOne_unlimited (contained : engine.sink.IsContained) :
    engine.unlimited.handOne range notification rest scan =
      ⟨.handing range rest, (engine.hand notification scan).2.withNotified⟩ := by
  have alsoContained : engine.unlimited.sink.IsContained := contained
  exact handOne_of_contained alsoContained

variable (limited : engine.config.limit? = some (limit : Int))

include limited in
/-- Below the limit, a notification that is handed on is counted and the next one follows. -/
theorem handOne_of_below (contained : engine.sink.IsContained)
    (below : scan.counters.notifications + 1 < limit) :
    engine.handOne range notification rest scan =
      ⟨.handing range rest, (engine.hand notification scan).2.withNotified⟩ := by
  have counters := (engine.hand_counters notification scan).1
  rw [handOne_of_contained contained]
  revert counters
  rcases engine.hand notification scan with ⟨result, handed⟩
  intro counters
  have fewer : ¬(limit : Int) ≤ (handed.withNotified.counters.notifications : Int) := by
    have counted : handed.withNotified.counters.notifications =
        handed.counters.notifications + 1 := rfl
    dsimp only at counters
    omega
  have same : engine.countNotification handed = handed.withNotified := by
    rw [countNotification_eq, limited]
    exact if_neg fewer
  have goesOn : ¬engine.atLimit handed.withNotified = true := by
    rw [atLimit, limited]
    exact fun reached => fewer (of_decide_eq_true reached)
  dsimp only
  rw [same, if_neg goesOn]

include limited in
/-- The notification that reaches the limit is the last of the run. -/
theorem handOne_of_reached (contained : engine.sink.IsContained) (range : BlockRange)
    (notification : Notification) (rest : List Notification)
    (reached : limit ≤ scan.counters.notifications + 1) :
    (engine.handOne range notification rest scan).stage = .resting ∧
      (engine.handOne range notification rest scan).scan.limitReached = true ∧
        (engine.handOne range notification rest scan).scan.counters.notifications =
          scan.counters.notifications + 1 := by
  have counters := (engine.hand_counters notification scan).1
  rw [handOne_of_contained contained]
  revert counters
  rcases engine.hand notification scan with ⟨result, handed⟩
  intro counters
  have enough : (limit : Int) ≤ (handed.withNotified.counters.notifications : Int) := by
    have counted : handed.withNotified.counters.notifications =
        handed.counters.notifications + 1 := rfl
    dsimp only at counters
    omega
  have same : engine.countNotification handed = handed.withNotified.withLimit limit := by
    rw [countNotification_eq, limited]
    exact if_pos enough
  have ends : engine.atLimit (engine.countNotification handed) = true := by
    rw [same, atLimit, limited]
    exact decide_eq_true enough
  dsimp only
  rw [if_pos ends, same]
  exact ⟨rfl, rfl, congrArg (· + 1) counters⟩

end HandingOn

/-! ### Below the limit and at it -/

/-- The limit has not been reached: every attempt is counted, and there are fewer of them. -/
structure IsBelow (limit : Nat) (scan : Scan NodeState SinkState) : Prop where
  counted : scan.counters.notifications = scan.attempts.length
  fewer : scan.attempts.length < limit
  unreached : scan.limitReached = false

/-- The last thing done was to hand on a notification of a span: there was a moment of the run
before it, and nothing was asked since. -/
def HasJustHanded (engine : Engine NodeState SinkState) (fresh scan : Scan NodeState SinkState)
    (range : BlockRange) : Prop :=
  ∃ notification rest before,
    engine.Passes fresh ⟨.handing range (notification :: rest), before⟩ ∧
      scan.attempts = before.attempts ++ [notification] ∧ scan.calls = before.calls ∧
        scan.cursor = before.cursor

/-- The limit has been reached: the run is over, every attempt is counted, and the last of them
reached the limit. -/
structure IsAtLimit (engine : Engine NodeState SinkState) (limit : Nat)
    (fresh : Scan NodeState SinkState) (moment : Moment NodeState SinkState) : Prop where
  finished : moment.stage = .resting ∨ moment.stage = .ended (.ok ())
  reached : moment.scan.limitReached = true
  counted : moment.scan.counters.notifications = moment.scan.attempts.length
  full : moment.scan.attempts.length = limit
  handed : ∃ range, engine.HasJustHanded fresh moment.scan range

section Limited

variable {engine : Engine NodeState SinkState} {limit : Nat} {fresh : Scan NodeState SinkState}
  {moment : Moment NodeState SinkState}

theorem IsBelow.of_holdsBack {before after : Scan NodeState SinkState}
    (below : IsBelow limit before) (held : before.HoldsBack after) : IsBelow limit after where
  counted := by
    rw [held.notifications, held.attempts]
    exact below.counted
  fewer := by
    rw [held.attempts]
    exact below.fewer
  unreached := held.limitReached.trans below.unreached

/-- A step that hands on nothing keeps the count of notifications. -/
theorem next_of_quiet (engine : Engine NodeState SinkState) (quiet : moment.stage.IsQuiet) :
    moment.scan.HoldsBack (engine.next moment).scan := by
  rcases engine.next_cases moment with ⟨held, -⟩ | ⟨range, notification, rest, hands, -⟩
  · exact held
  · rw [hands] at quiet
    exact quiet.elim

/-- At the limit a step only ends the run. -/
theorem IsAtLimit.next (atLimit : engine.IsAtLimit limit fresh moment) :
    engine.IsAtLimit limit fresh (engine.next moment) ∧ (engine.next moment).scan = moment.scan := by
  obtain ⟨finished, reached, counted, full, handed⟩ := atLimit
  rcases moment with ⟨stage, scan⟩
  rcases finished with rfl | rfl
  · have ends : scan.limitReached || scan.stopped := by
      rw [show scan.limitReached = true from reached, Bool.true_or]
    rw [Engine.next, if_pos ends]
    exact ⟨⟨Or.inr rfl, reached, counted, full, handed⟩, rfl⟩
  · exact ⟨⟨Or.inr rfl, reached, counted, full, handed⟩, rfl⟩

/-- At the limit nothing is left to do. -/
theorem IsAtLimit.eq_of_leads {later : Moment NodeState SinkState}
    (atLimit : engine.IsAtLimit limit fresh moment) (leads : engine.Leads moment later) :
    later.scan = moment.scan := by
  have kept := leads.keeps
    (fun other => engine.IsAtLimit limit fresh other ∧ other.scan = moment.scan)
    (fun other ⟨still, same⟩ => ⟨still.next.1, still.next.2.trans same⟩) ⟨atLimit, rfl⟩
  exact kept.2

variable (limited : engine.config.limit? = some (limit : Int))
  (contained : engine.sink.IsContained)

include limited contained in
/-- The step: a moment of both runs below the limit leads to another one, or to the limit with the
attempts that the run without it has made as well. -/
theorem next_of_below (passes : engine.Passes fresh moment) (below : IsBelow limit moment.scan) :
    engine.next moment = engine.unlimited.next moment ∧ IsBelow limit (engine.next moment).scan ∨
      engine.IsAtLimit limit fresh (engine.next moment) ∧
        (engine.next moment).scan.attempts = (engine.unlimited.next moment).scan.attempts := by
  rcases moment with ⟨stage, scan⟩
  by_cases quiet : stage.IsQuiet
  · exact Or.inl ⟨(next_unlimited quiet engine).symm,
      below.of_holdsBack (engine.next_of_quiet quiet)⟩
  · obtain ⟨range, notification, rest, rfl⟩ :
        ∃ range notification rest, stage = .handing range (notification :: rest) := by
      unfold Stage.IsQuiet at quiet
      split at quiet
      · exact ⟨_, _, _, rfl⟩
      · exact absurd trivial quiet
    obtain ⟨attempts, cursor, calls⟩ := engine.handOne_calls range notification rest scan
    have unlimitedAttempts := (engine.unlimited.handOne_calls range notification rest scan).1
    have counted := below.counted
    dsimp only at counted
    rw [Engine.next, Engine.next]
    by_cases reached : limit ≤ scan.counters.notifications + 1
    · right
      obtain ⟨finished, limitReached, notifications⟩ :=
        handOne_of_reached limited contained range notification rest reached
      have length : (engine.handOne range notification rest scan).scan.attempts.length =
          scan.attempts.length + 1 := by
        rw [attempts, List.length_append, List.length_singleton]
      have fewer := below.fewer
      dsimp only at fewer
      refine ⟨⟨Or.inl finished, limitReached, ?_, ?_, range, notification, rest, scan, passes,
        attempts, calls, cursor⟩, attempts.trans unlimitedAttempts.symm⟩
      · rw [notifications, length, counted]
      · omega
    · left
      rw [handOne_of_below limited contained (Nat.lt_of_not_le reached),
        handOne_unlimited contained]
      have handed := engine.hand_counters notification scan
      have handedAttempts := engine.hand_attempts notification scan
      have length : (engine.hand notification scan).2.withNotified.attempts.length =
          scan.attempts.length + 1 := by
        have same : (engine.hand notification scan).2.withNotified.attempts =
            (engine.hand notification scan).2.attempts := rfl
        rw [same, handedAttempts, List.length_append, List.length_singleton]
      refine ⟨rfl, ?_, ?_, ?_⟩
      · rw [length, ← counted, ← handed.1]
        rfl
      · rw [length]
        omega
      · exact handed.2.trans below.unreached

/-! ### Both runs -/

include limited contained in
/-- Until the limit is reached both runs pass the same moments. At the limit the run without it has
come as far. -/
theorem Passes.below_or_atLimit (begins : IsBelow limit fresh)
    (passes : engine.Passes fresh moment) :
    engine.unlimited.Passes fresh moment ∧ IsBelow limit moment.scan ∨
      engine.IsAtLimit limit fresh moment ∧
        ∃ other, engine.unlimited.Passes fresh other ∧
          moment.scan.attempts = other.scan.attempts := by
  unfold Passes at passes
  induction passes with
  | refl => exact Or.inl ⟨Leads.refl _, begins⟩
  | @tail moment following earlier isNext inductionHypothesis =>
    subst isNext
    rcases inductionHypothesis with ⟨alsoPasses, below⟩ | ⟨atLimit, other, passes, attempts⟩
    · have further : engine.unlimited.Passes fresh (engine.unlimited.next moment) :=
        alsoPasses.trans (leads_next moment)
      rcases next_of_below limited contained earlier below with
        ⟨same, still⟩ | ⟨atLimit, attempts⟩
      · rw [same] at still ⊢
        exact Or.inl ⟨further, still⟩
      · exact Or.inr ⟨atLimit, _, further, attempts⟩
    -- From the limit on nothing changes but that the run ends.
    · obtain ⟨still, same⟩ := atLimit.next
      exact Or.inr ⟨still, other, passes, (congrArg Scan.attempts same).trans attempts⟩

/-- At the limit the span of the last notification has been asked about and committed. -/
theorem HasJustHanded.committed {scan : Scan NodeState SinkState} {range : BlockRange}
    (handed : engine.HasJustHanded fresh scan range) :
    scan.cursor.lastCommitted? = some range.last ∧ HasAsked scan range engine.contracts := by
  obtain ⟨notification, rest, before, passes, -, calls, cursor⟩ := handed
  have kept := passes.keepsSpan
  rw [cursor, HasAsked, calls]
  exact kept

include limited contained in
/-- A run with a limit hands on the first notifications that the run without it hands on, up to the
limit, whatever becomes of them. The limit counts as reached exactly if so many were handed on. At
any moment by which so many have been, the scan is what it is in the end, and the last thing that
was done was to hand on a notification of a span that is committed. -/
theorem run_of_limit (positive : 1 ≤ limit) (node : NodeState) (sink : SinkState)
    (clock : Clock) (stopped : Bool) :
    let fresh : Scan NodeState SinkState := { node, sink, clock, stopped }
    let final := (engine.run fresh).2
    final.attempts = (engine.unlimited.run fresh).2.attempts.take limit ∧
      (final.limitReached = true ↔ final.attempts.length = limit) ∧
        ∀ moment, engine.Passes fresh moment → moment.scan.attempts.length = limit →
          final = moment.scan ∧
            ∃ range, engine.HasJustHanded fresh final range ∧
              final.cursor.lastCommitted? = some range.last ∧
                HasAsked final range engine.contracts := by
  intro fresh final
  have begins : IsBelow limit fresh := ⟨rfl, positive, rfl⟩
  have passesLast : engine.Passes fresh (engine.last fresh) := passes_last rfl
  refine ⟨?_, ?_, ?_⟩
  · rcases passesLast.below_or_atLimit limited contained begins with
      ⟨alsoPasses, below⟩ | ⟨atLimit, other, passes, attempts⟩
    · have same : engine.unlimited.last fresh = engine.last fresh :=
        eq_of_leads_ended (alsoPasses.leads_last rfl)
      have sameScan : (engine.unlimited.run fresh).2 = final := congrArg Moment.scan same
      rw [sameScan]
      exact (List.take_of_length_le (Nat.le_of_lt below.fewer)).symm
    · have grown := (passes.leads_last rfl).grows.2
      rw [← attempts] at grown
      rw [← atLimit.full]
      exact List.prefix_iff_eq_take.mp grown
  · rcases passesLast.below_or_atLimit limited contained begins with
      ⟨-, below⟩ | ⟨atLimit, -⟩
    · exact ⟨fun reached => (Bool.false_ne_true (below.unreached.symm.trans reached)).elim,
        fun full => absurd full (Nat.ne_of_lt below.fewer)⟩
    · exact ⟨fun _ => atLimit.full, fun _ => atLimit.reached⟩
  · intro moment passes full
    rcases passes.below_or_atLimit limited contained begins with ⟨-, below⟩ | ⟨atLimit, -⟩
    · exact absurd full (Nat.ne_of_lt below.fewer)
    · have same : final = moment.scan := atLimit.eq_of_leads (passes.leads_last rfl)
      obtain ⟨range, handed⟩ := atLimit.handed
      rw [same]
      exact ⟨rfl, range, handed, handed.committed⟩

end Limited

/-- With a limit of one a run hands on one of two ballots, and does not ask for the block after
the span of that ballot. -/
theorem run_of_limit_one :
    let layout : Layout := { Registry.eventLayout .threshold .v2 with topic := "0x00" }
    let entry (block : Nat) : LogEntry := ⟨"0x00", ["0x00"], List.replicate 224 0, block, 0, ""⟩
    let config : WatchConfig :=
      { network := .core, endpoint := "", version := .v2, kinds := [.threshold]
        addresses := [(.threshold, "0x00")], start := .earliest, pollInterval := default
        limit? := some 1 }
    let engine : Engine NodePlan Unit :=
      ⟨config, [⟨.threshold, "0x00", layout⟩], NodePlan.access,
        fun _ state => ({ result := .error ⟨.dispatch, "refused"⟩ }, state)⟩
    let plan : NodePlan :=
      { tips := [⟨.ok 7, false⟩, ⟨.ok 7, false⟩, ⟨.ok 9, false⟩]
        logs := [⟨.ok [entry 3], false⟩, ⟨.ok [entry 8], false⟩]
        atEnd := ⟨.network, "over"⟩ }
    let fresh : Scan NodePlan Unit := { node := plan, sink := () }
    ((engine.run fresh).2.attempts.map Notification.block = [3] ∧
        (engine.run fresh).2.limitReached = true ∧ (engine.run fresh).2.calls.length = 3 ∧
          (engine.run fresh).2.cursor.lastCommitted? = some 7) ∧
      ∃ moment, engine.unlimited.Passes fresh moment ∧
        moment.scan.attempts.map Notification.block = [3, 8] := by
  intro layout entry config engine plan fresh
  have contained : engine.sink.IsContained := by
    intro notification state fault refused
    cases refused
    rfl
  have limited : engine.config.limit? = some ((1 : Nat) : Int) := rfl
  obtain ⟨-, reached, final⟩ :=
    run_of_limit limited contained (Nat.le_refl 1) plan () {} false
  let moment := engine.next^[5] (.first fresh)
  have full : moment.scan.attempts.length = 1 := by decide +kernel
  obtain ⟨same, -⟩ := final moment (engine.passes_iterate fresh 5) full
  refine ⟨⟨?_, reached.mpr ?_, ?_, ?_⟩, _, engine.unlimited.passes_iterate fresh 10, ?_⟩
  · rw [same]
    decide +kernel
  · rw [same]
    exact full
  · rw [same]
    decide +kernel
  · rw [same]
    decide +kernel
  · decide +kernel

end Engine

end BallotWatch
