/-
This file takes a run apart into moments. From one moment to the next at most one question is put
to the node or one notification handed to the sink, so the order in which a run does its work can
be told from its moments. They lead from the beginning of the run to what it gives in the end.
-/

import BallotWatch.Proofs.Scan.Tick
import BallotWatch.Scan.Run
import Mathlib.Logic.Function.Iterate
import Mathlib.Logic.Relation

namespace BallotWatch

variable {NodeState SinkState : Type}

/-! ### Moments -/

/-- What a run is about to do: to find its place on the chain, to begin a tick or end, to ask the
contracts that are left about a span, to hand on the notifications that are left of a span, or
nothing more. -/
inductive Stage
  | placing
  | resting
  | asking (range : BlockRange) (rest : List Monitored) (found : List Found)
  | handing (range : BlockRange) (rest : List Notification)
  | ended (result : Except Fault Unit)

/-- Nothing has been begun that is not finished. -/
def Stage.IsBetweenTicks : Stage → Prop
  | placing | resting => True
  | _ => False

instance (stage : Stage) : Decidable stage.IsBetweenTicks :=
  match stage with
  | .placing | .resting => .isTrue trivial
  | .asking .. | .handing .. | .ended _ => .isFalse id

/-- A moment of a run: what is about to be done, and the scan so far. -/
structure Moment (NodeState SinkState : Type) where
  stage : Stage
  scan : Scan NodeState SinkState

namespace Moment

/-- The moment after a step: the stage where the step leads, unless it ends the run with a
fault. -/
def behind {Value : Type} (stage : Stage) :
    Except Fault Value × Scan NodeState SinkState → Moment NodeState SinkState
  | (.ok _, scan) => ⟨stage, scan⟩
  | (.error fault, scan) => ⟨.ended (.error fault), scan⟩

/-- The moment after a run has looked for its place. -/
def behindPlacing : Except Fault Bool × Scan NodeState SinkState → Moment NodeState SinkState
  | (.ok true, scan) => ⟨.resting, scan⟩
  | (.ok false, scan) => ⟨.ended (.ok ()), scan⟩
  | (.error fault, scan) => ⟨.ended (.error fault), scan⟩

/-- The moment after some contracts were asked. -/
def behindAsking (range : BlockRange) (rest : List Monitored) (found : List Found) :
    Except Fault (Option (List Found)) × Scan NodeState SinkState → Moment NodeState SinkState
  | (.ok (some more), scan) => ⟨.asking range rest (found ++ more), scan⟩
  | (.ok none, scan) => ⟨.resting, scan.countFailure⟩
  | (.error fault, scan) => ⟨.ended (.error fault), scan⟩

/-- The first moment of a run. -/
def first (scan : Scan NodeState SinkState) : Moment NodeState SinkState :=
  ⟨.placing, scan⟩

end Moment

namespace Engine

variable (engine : Engine NodeState SinkState)

/-- The moment after the newest block was asked for to find the place of a run. -/
def place (scan : Scan NodeState SinkState) : Moment NodeState SinkState :=
  match engine.askTip scan with
  | (.ok tip, asked) =>
    match engine.config.start.anchor tip with
    | .error fault => ⟨.ended (.error fault.toFault), asked⟩
    | .ok (anchor, first) =>
      let placed := { asked with cursor := { start? := some first, lastCommitted? := none } }
      ⟨.resting, placed.note .info (anchorText engine.config.start tip anchor first)⟩
  | (.error fault, asked) =>
    match initialTrouble? fault with
    | none => ⟨.ended (.error fault), asked⟩
    | some (level, text) => ⟨.placing, asked.note level text⟩

/-- The moment after a tick has asked for the newest block. A tick with nothing to ask about is
over. -/
def begin (scan : Scan NodeState SinkState) : Moment NodeState SinkState :=
  match engine.askTip scan.begun with
  | (.error _, _) => .behind .resting (engine.tick scan)
  | (.ok tip, asked) =>
    match engine.anchor tip asked with
    | (.error fault, anchored) => ⟨.ended (.error fault), anchored⟩
    | (.ok (), anchored) =>
      match anchored.cursor.nextRange tip with
      | .ok (some range) => ⟨.asking range engine.contracts [], anchored⟩
      | _ => .behind .resting (engine.advance tip anchored)

/-- The moment after a span was committed. -/
def close (range : BlockRange) (found : List Found) (scan : Scan NodeState SinkState) :
    Moment NodeState SinkState :=
  let (notifications, read) := engine.notifications found scan
  match read.cursor.commit range with
  | .error fault => ⟨.ended (.error fault.toFault), read⟩
  | .ok cursor => ⟨.handing range notifications, read.committed range cursor notifications.length⟩

/-- The moment after a notification was handed to the sink. -/
def handOne (range : BlockRange) (notification : Notification) (rest : List Notification)
    (scan : Scan NodeState SinkState) : Moment NodeState SinkState :=
  match engine.hand notification scan with
  | (.error fault, handed) => ⟨.ended (.error fault), handed⟩
  | (.ok (), handed) =>
    let counted := engine.countNotification handed
    if engine.atLimit counted then ⟨.resting, counted⟩ else ⟨.handing range rest, counted⟩

/-- The next moment of a run. -/
def next : Moment NodeState SinkState → Moment NodeState SinkState
  | ⟨.placing, scan⟩ => if scan.stopped then ⟨.ended (.ok ()), scan⟩ else engine.place scan
  | ⟨.resting, scan⟩ =>
    if scan.limitReached || scan.stopped then ⟨.ended (.ok ()), scan⟩ else engine.begin scan
  | ⟨.asking range [] found, scan⟩ => engine.close range found scan
  | ⟨.asking range (contract :: rest) found, scan⟩ =>
    .behindAsking range rest found (engine.collect range [contract] scan)
  | ⟨.handing _ [], scan⟩ => ⟨.resting, scan⟩
  | ⟨.handing range (notification :: rest), scan⟩ => engine.handOne range notification rest scan
  | ⟨.ended result, scan⟩ => ⟨.ended result, scan⟩

/-- One moment leads to another. -/
def Leads : Moment NodeState SinkState → Moment NodeState SinkState → Prop :=
  Relation.ReflTransGen fun one other => engine.next one = other

/-- A run from a scan passes a moment. -/
def Passes (scan : Scan NodeState SinkState) (moment : Moment NodeState SinkState) : Prop :=
  engine.Leads (.first scan) moment

/-- The last moment of a run. -/
def last (scan : Scan NodeState SinkState) : Moment NodeState SinkState :=
  ⟨.ended (engine.run scan).1, (engine.run scan).2⟩

/-! ### One moment after another -/

variable {engine} {one other third : Moment NodeState SinkState}

theorem Leads.refl (moment : Moment NodeState SinkState) : engine.Leads moment moment :=
  Relation.ReflTransGen.refl

theorem leads_next (moment : Moment NodeState SinkState) :
    engine.Leads moment (engine.next moment) :=
  Relation.ReflTransGen.single rfl

theorem Leads.trans (earlier : engine.Leads one other) (later : engine.Leads other third) :
    engine.Leads one third :=
  Relation.ReflTransGen.trans earlier later

/-- A first step may be left out. -/
theorem leads_of_next (later : engine.Leads (engine.next one) other) : engine.Leads one other :=
  (leads_next one).trans later

/-- Moments of one run stand in one order. -/
theorem Leads.total (leads : engine.Leads one other) (alsoLeads : engine.Leads one third) :
    engine.Leads other third ∨ engine.Leads third other := by
  refine Relation.ReflTransGen.total_of_right_unique ?_ leads alsoLeads
  intro moment following alsoFollowing isNext alsoNext
  exact isNext.symm.trans alsoNext

/-- What each step keeps holds of every later moment. -/
theorem Leads.keeps (leads : engine.Leads one other) (holds : Moment NodeState SinkState → Prop)
    (step : ∀ moment, holds moment → holds (engine.next moment)) (begins : holds one) :
    holds other := by
  induction leads with
  | refl => exact begins
  | @tail moment following _ isNext inductionHypothesis =>
    rw [← isNext]
    exact step moment inductionHypothesis

theorem passes_iterate (engine : Engine NodeState SinkState) (scan : Scan NodeState SinkState)
    (count : Nat) : engine.Passes scan (engine.next^[count] (.first scan)) := by
  induction count with
  | zero => exact Leads.refl _
  | succ count inductionHypothesis =>
    rw [Function.iterate_succ_apply']
    exact inductionHypothesis.trans (leads_next _)

theorem eq_of_leads_ended {result : Except Fault Unit} {scan : Scan NodeState SinkState}
    (leads : engine.Leads ⟨.ended result, scan⟩ other) : other = ⟨.ended result, scan⟩ := by
  refine leads.keeps (fun moment => moment = ⟨.ended result, scan⟩) ?_ rfl
  rintro moment rfl
  rfl

/-! ### The moments of a tick -/

section Tick

variable {range : BlockRange} {contract : Monitored} {found : List Found}
  {scan asked : Scan NodeState SinkState} {fault : Fault}

theorem collect_cons_of_refused
    (refused : engine.askLogs (contract.query range) scan = (.error fault, asked))
    (rest : List Monitored) :
    engine.collect range (contract :: rest) scan = engine.collect range [contract] scan := by
  unfold Monitored.query at refused
  rw [collect, refused, collect, refused]

/-- Asking contracts is asking the first of them and, if that does not stop, the others. -/
theorem collect_cons (engine : Engine NodeState SinkState) (range : BlockRange)
    (contract : Monitored) (rest : List Monitored) (scan : Scan NodeState SinkState) :
    engine.collect range (contract :: rest) scan =
      match engine.collect range [contract] scan with
      | (.ok (some found), asked) =>
        ((engine.collect range rest asked).1.map (Option.map (found ++ ·)),
          (engine.collect range rest asked).2)
      | (result, asked) => (result, asked) := by
  rcases answered : engine.askLogs (contract.query range) scan with ⟨result, asked⟩
  cases result with
  | error fault =>
    rw [collect_cons_of_refused answered rest]
    have ended := (collect_of_refused answered []).1
    revert ended
    rcases engine.collect range [contract] scan with ⟨result, after⟩
    rintro rfl
    obtain ⟨kind, message⟩ := fault
    cases kind <;> rfl
  | ok entries =>
    rcases outcome : decodeEntries contract.layout entries (asked.received entries)
      with ⟨result, decoded⟩
    cases result with
    | error fault =>
      rw [collect_of_unread answered outcome, collect_of_unread answered outcome]
    | ok found =>
      rw [collect_of_read answered outcome, collect_of_read answered outcome [], collect]
      simp only [Except.map, Option.map, List.append_nil]

/-- Asking the contracts one by one leads to where asking all of them at once does. -/
theorem leads_collect (engine : Engine NodeState SinkState) (range : BlockRange)
    (contracts : List Monitored) (found : List Found) (scan : Scan NodeState SinkState) :
    engine.Leads ⟨.asking range contracts found, scan⟩
      (.behindAsking range [] found (engine.collect range contracts scan)) := by
  induction contracts generalizing found scan with
  | nil =>
    rw [collect, Moment.behindAsking, List.append_nil]
    exact Leads.refl _
  | cons contract rest inductionHypothesis =>
    refine leads_of_next ?_
    rw [next, engine.collect_cons range contract rest]
    rcases engine.collect range [contract] scan with ⟨fault | _ | here, asked⟩
    · exact Leads.refl _
    · exact Leads.refl _
    · have others := inductionHypothesis (found ++ here) asked
      rw [Moment.behindAsking]
      dsimp only
      revert others
      rcases engine.collect range rest asked with ⟨fault | _ | later, after⟩
      · exact id
      · exact id
      · intro others
        rw [Moment.behindAsking, List.append_assoc] at others
        exact others

/-- Handing on one notification after another ends where handing them all on does. -/
theorem leads_emit (engine : Engine NodeState SinkState) (range : BlockRange)
    (notifications : List Notification) (scan : Scan NodeState SinkState) :
    engine.Leads ⟨.handing range notifications, scan⟩
      (.behind .resting (engine.emit notifications scan)) := by
  induction notifications generalizing scan with
  | nil => exact leads_next _
  | cons notification rest inductionHypothesis =>
    refine leads_of_next ?_
    rw [next, handOne]
    rcases handed : engine.hand notification scan with ⟨result, after⟩
    cases result with
    | error fault =>
      rw [emit_of_fault handed]
      exact Leads.refl _
    | ok _ =>
      rw [emit_of_handed handed]
      dsimp only
      by_cases limit : engine.atLimit (engine.countNotification after) = true
      · rw [if_pos limit, if_pos limit]
        exact Leads.refl _
      · rw [if_neg limit, if_neg limit]
        exact inductionHypothesis _

theorem leads_finish (engine : Engine NodeState SinkState) (range : BlockRange)
    (found : List Found) (scan : Scan NodeState SinkState) :
    engine.Leads ⟨.asking range [] found, scan⟩
      (.behind .resting (engine.finish range found scan)) := by
  refine leads_of_next ?_
  rw [next, close, finish]
  rcases engine.notifications found scan with ⟨notifications, read⟩
  dsimp only
  cases read.cursor.commit range with
  | error reason => exact Leads.refl _
  | ok cursor =>
    dsimp only
    have handed := engine.leads_emit range notifications
      (read.committed range cursor notifications.length)
    revert handed
    rcases engine.emit notifications _ with ⟨result, after⟩
    intro handed
    cases result <;> exact handed

/-- With a span in hand the moments lead through the asking to the end of the tick. -/
theorem leads_advance {tip : Int} (handed : scan.cursor.nextRange tip = .ok (some range)) :
    engine.Leads ⟨.asking range engine.contracts [], scan⟩
      (.behind .resting (engine.advance tip scan)) := by
  have collected := engine.leads_collect range engine.contracts [] scan
  rw [advance, handed]
  dsimp only
  revert collected
  rcases engine.collect range engine.contracts scan with ⟨fault | _ | found, asked⟩
  · exact id
  · exact id
  · exact fun collected => collected.trans (engine.leads_finish range found asked)

/-- The moments of a tick. -/
theorem leads_tick (engine : Engine NodeState SinkState) (scan : Scan NodeState SinkState) :
    engine.Leads (engine.begin scan) (.behind .resting (engine.tick scan)) := by
  unfold begin
  rcases told : engine.askTip scan.begun with ⟨result, asked⟩
  cases result with
  | error fault => exact Leads.refl _
  | ok tip =>
    dsimp only
    rcases placed : engine.anchor tip asked with ⟨result, anchored⟩
    cases result with
    | error fault =>
      rw [tick_of_unplaced told placed]
      exact Leads.refl _
    | ok _ =>
      rw [tick_of_placed told placed]
      dsimp only
      cases handed : anchored.cursor.nextRange tip with
      | error reason => exact Leads.refl _
      | ok range? =>
        cases range? with
        | none => exact Leads.refl _
        | some range => exact leads_advance handed

end Tick

/-! ### The moments of a run -/

theorem leads_settle (engine : Engine NodeState SinkState) (scan : Scan NodeState SinkState) :
    engine.Leads (.first scan) (.behindPlacing (engine.settle scan)) := by
  fun_induction Engine.settle engine scan with
  | case1 scan stopped =>
    refine leads_of_next ?_
    rw [Moment.first, next, if_pos stopped]
    exact Leads.refl _
  | case2 scan goesOn tip asked told fault refused =>
    refine leads_of_next ?_
    rw [Moment.first, next, if_neg goesOn, place, told]
    simp only [refused]
    exact Leads.refl _
  | case3 scan goesOn tip asked told anchor first placed =>
    refine leads_of_next ?_
    rw [Moment.first, next, if_neg goesOn, place, told]
    simp only [placed]
    exact Leads.refl _
  | case4 scan goesOn fault asked told ends =>
    refine leads_of_next ?_
    rw [Moment.first, next, if_neg goesOn, place, told]
    simp only [ends]
    exact Leads.refl _
  | case5 scan goesOn fault asked told level text again _ _ inductionHypothesis =>
    refine leads_of_next ?_
    rw [Moment.first, next, if_neg goesOn, place, told]
    simp only [again]
    exact inductionHypothesis
  | case6 scan goesOn fault asked told level text again stops =>
    refine leads_of_next (leads_of_next ?_)
    rw [Moment.first, next, if_neg goesOn, place, told]
    simp only [again]
    have stopped : (asked.note level text).stopped = true := Bool.not_eq_false _ ▸ stops
    rw [next, if_pos stopped]
    exact Leads.refl _

theorem leads_tickAll (engine : Engine NodeState SinkState) {scan : Scan NodeState SinkState}
    (unreached : scan.limitReached = false) :
    engine.Leads ⟨.resting, scan⟩
      ⟨.ended (engine.tickAll scan).1, (engine.tickAll scan).2⟩ := by
  fun_induction Engine.tickAll engine scan with
  | case1 scan stopped =>
    refine leads_of_next ?_
    rw [next, unreached, stopped, Bool.or_true, if_pos rfl]
    exact Leads.refl _
  | case2 scan goesOn fault after ticked =>
    have tick := engine.leads_tick scan
    refine leads_of_next ?_
    rw [next, unreached, Bool.false_or, if_neg goesOn]
    rw [ticked] at tick
    exact tick
  | case3 scan goesOn notifications after ticked ends =>
    have tick := engine.leads_tick scan
    refine leads_of_next ?_
    rw [next, unreached, Bool.false_or, if_neg goesOn]
    rw [ticked] at tick
    refine tick.trans (leads_of_next ?_)
    rw [Moment.behind, next, if_pos ends]
    exact Leads.refl _
  | case4 scan goesOn notifications after ticked ends spends inductionHypothesis =>
    have tick := engine.leads_tick scan
    refine leads_of_next ?_
    rw [next, unreached, Bool.false_or, if_neg goesOn]
    rw [ticked] at tick
    have stillUnreached : after.limitReached = false := by
      rw [Bool.or_eq_true, not_or, Bool.not_eq_true] at ends
      exact ends.1
    exact tick.trans (inductionHypothesis stillUnreached)

/-- Finding its place, a scan counts nothing. -/
theorem settle_keeps (engine : Engine NodeState SinkState) (scan : Scan NodeState SinkState) :
    (engine.settle scan).2.counters = scan.counters ∧
      (engine.settle scan).2.limitReached = scan.limitReached := by
  have asks (scan : Scan NodeState SinkState) : (engine.askTip scan).2.counters = scan.counters ∧
      (engine.askTip scan).2.limitReached = scan.limitReached := ⟨rfl, rfl⟩
  fun_induction Engine.settle engine scan with
  | case1 => exact ⟨rfl, rfl⟩
  | case2 scan _ tip asked told | case3 scan _ tip asked told =>
    have kept := asks scan
    rw [told] at kept
    exact kept
  | case4 scan _ fault asked told | case6 scan _ fault asked told =>
    have kept := asks scan
    rw [told] at kept
    exact kept
  | case5 scan _ fault asked told _ _ _ _ _ inductionHypothesis =>
    have kept := asks scan
    rw [told] at kept
    exact ⟨inductionHypothesis.1.trans kept.1, inductionHypothesis.2.trans kept.2⟩

/-- The moments of a run lead to what it gives. -/
theorem passes_last {scan : Scan NodeState SinkState} (unreached : scan.limitReached = false) :
    engine.Passes scan (engine.last scan) := by
  have settled := engine.leads_settle scan
  have stillUnreached := (engine.settle_keeps scan).2.trans unreached
  unfold Passes last run
  revert settled stillUnreached
  rcases engine.settle scan with ⟨result, begun⟩
  intro settled stillUnreached
  match result with
  | .error fault => exact settled
  | .ok false => exact settled
  | .ok true => exact settled.trans (engine.leads_tickAll stillUnreached)

/-- Every moment that a run passes leads to what the run gives. -/
theorem Passes.leads_last {scan : Scan NodeState SinkState}
    {moment : Moment NodeState SinkState} (passes : engine.Passes scan moment)
    (unreached : scan.limitReached = false) : engine.Leads moment (engine.last scan) := by
  rcases passes.total (passes_last unreached) with later | earlier
  · exact later
  · obtain rfl : moment = engine.last scan := eq_of_leads_ended earlier
    exact Leads.refl _

end Engine

end BallotWatch
