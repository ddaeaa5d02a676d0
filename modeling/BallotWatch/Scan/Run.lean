/-
This file repeats ticks until the scan is asked to stop or the limit is reached.

A run first fixes its place on the chain by the newest block, asking again as long as the node
cannot tell it. The request to stop is looked at between ticks only, so a tick that has begun is
finished.

Every round uses up some of what the node can still say, or ends with the request to stop. That
is why a run ends, and the first part of this file shows it for a tick.
-/

import BallotWatch.Scan.Engine

namespace BallotWatch

open Journal (Level)

variable {NodeState SinkState : Type}

/-! ### What a step leaves of the node -/

/-- A later state of a scan: a request to stop has not been taken back, and the node has no
more to say than before. -/
structure Engine.Follows (engine : Engine NodeState SinkState)
    (before after : Scan NodeState SinkState) : Prop where
  stopped : after.stopped = false → before.stopped = false
  supply : engine.node.supply after.node ≤ engine.node.supply before.node

namespace Engine

variable {engine : Engine NodeState SinkState}

theorem Follows.refl (scan : Scan NodeState SinkState) : engine.Follows scan scan :=
  ⟨id, Nat.le_refl _⟩

theorem Follows.trans {first second third : Scan NodeState SinkState}
    (earlier : engine.Follows first second) (later : engine.Follows second third) :
    engine.Follows first third :=
  ⟨fun continues => earlier.stopped (later.stopped continues),
    Nat.le_trans later.supply earlier.supply⟩

/-- A step that leaves the node alone and takes back no request to stop. -/
theorem Follows.of_node_eq {before after : Scan NodeState SinkState}
    (node : after.node = before.node)
    (stopped : after.stopped = false → before.stopped = false) : engine.Follows before after :=
  ⟨stopped, Nat.le_of_eq (congrArg engine.node.supply node)⟩

variable (engine)

theorem decodeEntries_node (layout : Layout) (entries : List LogEntry)
    (scan : Scan NodeState SinkState) :
    (decodeEntries layout entries scan).2.node = scan.node ∧
      (decodeEntries layout entries scan).2.stopped = scan.stopped := by
  induction entries generalizing scan with
  | nil => exact ⟨rfl, rfl⟩
  | cons entry rest inductionHypothesis =>
    simp only [decodeEntries]
    split
    · exact inductionHypothesis _
    · split
      · exact inductionHypothesis _
      · exact ⟨rfl, rfl⟩

theorem askLogs_follows (query : Node.LogQuery) (scan : Scan NodeState SinkState) :
    engine.Follows scan (engine.askLogs query scan).2 := by
  refine ⟨fun continues => ?_, engine.node.logs_supply query scan.node⟩
  simp only [askLogs, Bool.or_eq_false_iff] at continues
  exact continues.1

theorem collect_follows (range : BlockRange) (contracts : List Monitored)
    (scan : Scan NodeState SinkState) :
    engine.Follows scan (engine.collect range contracts scan).2 := by
  induction contracts generalizing scan with
  | nil => exact .refl _
  | cons contract rest inductionHypothesis =>
    have asked :=
      askLogs_follows engine ⟨contract.address, contract.layout.topic, range⟩ scan
    unfold collect
    revert asked
    generalize engine.askLogs ⟨contract.address, contract.layout.topic, range⟩ scan = reply
    obtain ⟨result, after⟩ := reply
    intro asked
    cases result with
    | error fault =>
      dsimp only
      split
      · exact asked.trans (.of_node_eq rfl id)
      · exact asked.trans (.of_node_eq rfl id)
      · exact asked
    | ok entries =>
      dsimp only
      have decoded := decodeEntries_node contract.layout entries
        (after.count fun counters =>
          { counters with totalLogs := counters.totalLogs + entries.length })
      have passed : engine.Follows scan _ :=
        asked.trans (Follows.of_node_eq decoded.1 fun continues => by
          rwa [decoded.2] at continues)
      revert passed
      generalize decodeEntries contract.layout entries _ = outcome
      obtain ⟨result, later⟩ := outcome
      intro passed
      cases result with
      | error fault => exact passed
      | ok found =>
        dsimp only
        have whole := passed.trans (inductionHypothesis later)
        revert whole
        generalize engine.collect range rest later = outcome
        obtain ⟨result, final⟩ := outcome
        intro whole
        cases result <;> exact whole

theorem hand_follows (notification : Notification) (scan : Scan NodeState SinkState) :
    engine.Follows scan (engine.hand notification scan).2 := by
  refine .of_node_eq ?_ ?_
  · unfold hand
    dsimp only
    repeat' split
    all_goals rfl
  · unfold hand
    dsimp only
    intro continues
    repeat' split at continues
    all_goals
      simp only [Scan.note, Scan.count, Bool.or_eq_false_iff] at continues
      exact continues.1

theorem countNotification_follows (scan : Scan NodeState SinkState) :
    engine.Follows scan (engine.countNotification scan) := by
  refine .of_node_eq ?_ ?_
  · unfold countNotification
    dsimp only
    repeat' split
    all_goals rfl
  · unfold countNotification
    dsimp only
    intro continues
    repeat' split at continues
    all_goals exact continues

theorem emit_follows (notifications : List Notification) (scan : Scan NodeState SinkState) :
    engine.Follows scan (engine.emit notifications scan).2 := by
  induction notifications generalizing scan with
  | nil => exact .refl _
  | cons notification rest inductionHypothesis =>
    have handed := hand_follows engine notification scan
    unfold emit
    revert handed
    generalize engine.hand notification scan = outcome
    obtain ⟨result, after⟩ := outcome
    intro handed
    cases result with
    | error fault => exact handed
    | ok _ =>
      dsimp only
      have counted := handed.trans (countNotification_follows engine after)
      split
      · exact counted
      · exact counted.trans (inductionHypothesis _)

theorem notifications_follows (found : List Found) (scan : Scan NodeState SinkState) :
    engine.Follows scan (engine.notifications found scan).2 :=
  .of_node_eq rfl id

theorem committed_follows (range : BlockRange) (cursor : Cursor) (ballots : Nat)
    (scan : Scan NodeState SinkState) :
    engine.Follows scan (scan.committed range cursor ballots) :=
  .of_node_eq rfl id

theorem finish_follows (range : BlockRange) (found : List Found)
    (scan : Scan NodeState SinkState) :
    engine.Follows scan (engine.finish range found scan).2 := by
  have built := notifications_follows engine found scan
  unfold finish
  revert built
  generalize engine.notifications found scan = outcome
  obtain ⟨notifications, after⟩ := outcome
  intro built
  dsimp only
  split
  · exact built
  · rename_i cursor committed
    have whole := (built.trans
      (committed_follows engine range cursor notifications.length after)).trans
      (emit_follows engine notifications _)
    revert whole
    generalize engine.emit notifications _ = outcome
    obtain ⟨result, final⟩ := outcome
    intro whole
    cases result <;> exact whole

theorem advance_follows (tip : Int) (scan : Scan NodeState SinkState) :
    engine.Follows scan (engine.advance tip scan).2 := by
  unfold advance
  split
  · exact .refl _
  · exact .of_node_eq rfl id
  · rename_i range _
    have collected := collect_follows engine range engine.contracts scan
    revert collected
    generalize engine.collect range engine.contracts scan = outcome
    obtain ⟨result, after⟩ := outcome
    intro collected
    match result with
    | .error fault => exact collected
    | .ok none => exact collected.trans (.of_node_eq rfl id)
    | .ok (some found) => exact collected.trans (finish_follows engine range found after)

theorem anchor_follows (tip : Int) (scan : Scan NodeState SinkState) :
    engine.Follows scan (engine.anchor tip scan).2 := by
  unfold anchor
  split
  · exact .refl _
  · split
    · exact .refl _
    · exact .of_node_eq rfl id

/-! ### A question spends -/

theorem askTip_spends (scan : Scan NodeState SinkState)
    (continues : (engine.askTip scan).2.stopped = false) :
    scan.stopped = false ∧
      engine.node.supply (engine.askTip scan).2.node < engine.node.supply scan.node := by
  simp only [askTip, Bool.or_eq_false_iff] at continues
  exact ⟨continues.1, engine.node.tip_spends scan.node continues.2⟩

/-- A tick after which the scan goes on has used up some of what the node can say. -/
theorem tick_spends (scan : Scan NodeState SinkState)
    (continues : (engine.tick scan).2.stopped = false) :
    engine.node.supply (engine.tick scan).2.node < engine.node.supply scan.node := by
  have spent := askTip_spends engine
    (scan.count fun counters => { counters with ticks := counters.ticks + 1 })
  unfold tick at continues ⊢
  dsimp only at continues ⊢
  revert spent continues
  generalize engine.askTip _ = outcome
  obtain ⟨result, after⟩ := outcome
  intro continues spent
  have node : (scan.count fun counters =>
      { counters with ticks := counters.ticks + 1 }).node = scan.node := rfl
  rw [node] at spent
  cases result with
  | error fault =>
    dsimp only at continues spent ⊢
    revert continues
    split <;> exact fun continues => (spent continues).2
  | ok tip =>
    dsimp only at continues spent ⊢
    have anchored := anchor_follows engine tip after
    revert anchored continues
    generalize engine.anchor tip after = outcome
    obtain ⟨result, later⟩ := outcome
    intro continues anchored
    cases result with
    | error fault =>
      exact Nat.lt_of_le_of_lt anchored.supply (spent (anchored.stopped continues)).2
    | ok _ =>
      have whole := anchored.trans (advance_follows engine tip later)
      exact Nat.lt_of_le_of_lt whole.supply (spent (whole.stopped continues)).2

/-! ### The run -/

/-- The record about the place at which a run starts. -/
def anchorText (mode : StartMode) (tip anchor first : Int) : String :=
  s!"cursor initialized: mode={mode.written} tip={tip} anchor={anchor} first block={first}"

/-- The record about trouble with the first question of a run, for the kinds of trouble after
which the question is put again. -/
def initialTrouble? (fault : Fault) : Option (Level × String) :=
  match fault.kind with
  | .network => some (.warning, s!"could not reach node for the initial tip: {fault.message}")
  | .rpc => some (.error, s!"bad response fetching the initial tip: {fault.message}")
  | _ => none

/-- Fixes the place of a run, asking for the newest block until the node tells it or the scan
is asked to stop. The result tells whether the place is fixed. -/
def settle (engine : Engine NodeState SinkState) (scan : Scan NodeState SinkState) :
    Except Fault Bool × Scan NodeState SinkState :=
  if scan.stopped then (.ok false, scan)
  else
    match asked : engine.askTip scan with
    | (.ok tip, after) =>
      match engine.config.start.anchor tip with
      | .error fault => (.error fault.toFault, after)
      | .ok (anchor, first) =>
        let after := { after with cursor := { start? := some first, lastCommitted? := none } }
        (.ok true, after.note .info (anchorText engine.config.start tip anchor first))
    | (.error fault, after) =>
      match initialTrouble? fault with
      | none => (.error fault, after)
      | some (level, text) =>
        if continues : after.stopped = false then
          have spends :
              engine.node.supply (after.note level text).node < engine.node.supply scan.node := by
            have spent := askTip_spends engine scan (by rw [asked]; exact continues)
            rw [asked] at spent
            exact spent.2
          engine.settle (after.note level text)
        else (.ok false, after.note level text)
  termination_by engine.node.supply scan.node

/-- Ticks until the scan is asked to stop or the limit is reached. -/
def tickAll (engine : Engine NodeState SinkState) (scan : Scan NodeState SinkState) :
    Except Fault Unit × Scan NodeState SinkState :=
  if scan.stopped then (.ok (), scan)
  else
    match ticked : engine.tick scan with
    | (.error fault, after) => (.error fault, after)
    | (.ok _, after) =>
      if ends : after.limitReached || after.stopped then (.ok (), after)
      else
        have spends : engine.node.supply after.node < engine.node.supply scan.node := by
          have continues : (engine.tick scan).2.stopped = false := by
            rw [ticked]
            simp only [Bool.or_eq_true, not_or, Bool.not_eq_true] at ends
            exact ends.2
          have spent := tick_spends engine scan continues
          rwa [ticked] at spent
        engine.tickAll after
  termination_by engine.node.supply scan.node

/-- A whole run. -/
def run (engine : Engine NodeState SinkState) (scan : Scan NodeState SinkState) :
    Except Fault Unit × Scan NodeState SinkState :=
  match engine.settle scan with
  | (.error fault, scan) => (.error fault, scan)
  | (.ok false, scan) => (.ok (), scan)
  | (.ok true, scan) => engine.tickAll scan

end Engine

end BallotWatch
