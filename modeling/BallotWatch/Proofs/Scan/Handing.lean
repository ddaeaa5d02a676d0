/-
This file says what committing a span and handing on its notifications does. It asks nothing, and
it moves the cursor behind the span, whatever becomes of the notifications. A sink that at most
fails to deliver is handed every one of them, if there is no limit.
-/

import BallotWatch.Proofs.Chain.Cursor
import BallotWatch.Scan.Engine

namespace BallotWatch

variable {NodeState SinkState : Type}

/-- A sink whose only faults are failed deliveries. -/
def Sink.IsContained (sink : Sink SinkState) : Prop :=
  ∀ notification state fault, (sink notification state).1.result = .error fault →
    fault.kind = .dispatch

namespace Engine

variable {engine : Engine NodeState SinkState} {range : BlockRange}
  {scan : Scan NodeState SinkState} {found : List Found} {fault : Fault}

/-! ### Questions and places -/

section Handing

variable {notification : Notification} {after : Scan NodeState SinkState}

theorem emit_of_fault (handed : engine.hand notification scan = (.error fault, after))
    (rest : List Notification) :
    engine.emit (notification :: rest) scan = (.error fault, after) := by
  rw [emit, handed]

theorem emit_of_handed (handed : engine.hand notification scan = (.ok (), after))
    (rest : List Notification) :
    engine.emit (notification :: rest) scan =
      if engine.atLimit (engine.countNotification after) then
        (.ok (), engine.countNotification after)
      else engine.emit rest (engine.countNotification after) := by
  rw [emit, handed]

end Handing

theorem hand_cursor_calls (engine : Engine NodeState SinkState) (notification : Notification)
    (scan : Scan NodeState SinkState) :
    (engine.hand notification scan).2.cursor = scan.cursor ∧
      (engine.hand notification scan).2.calls = scan.calls := by
  unfold hand
  dsimp only
  repeat' split
  all_goals exact ⟨rfl, rfl⟩

theorem countNotification_cursor_calls (engine : Engine NodeState SinkState)
    (scan : Scan NodeState SinkState) :
    (engine.countNotification scan).cursor = scan.cursor ∧
      (engine.countNotification scan).calls = scan.calls := by
  unfold countNotification
  dsimp only
  repeat' split
  all_goals exact ⟨rfl, rfl⟩

/-- What is kept each time a notification is handed on and counted is kept by handing on all of
them. -/
theorem emit_keeps {Value : Type} (observe : Scan NodeState SinkState → Value)
    (hands : ∀ notification scan, observe (engine.hand notification scan).2 = observe scan)
    (counts : ∀ scan, observe (engine.countNotification scan) = observe scan)
    (notifications : List Notification) (scan : Scan NodeState SinkState) :
    observe (engine.emit notifications scan).2 = observe scan := by
  induction notifications generalizing scan with
  | nil => rfl
  | cons notification rest inductionHypothesis =>
    have first := hands notification scan
    rcases handed : engine.hand notification scan with ⟨result, after⟩
    rw [handed] at first
    cases result with
    | error fault =>
      rw [emit_of_fault handed]
      exact first
    | ok _ =>
      rw [emit_of_handed handed]
      have soFar := (counts after).trans first
      split
      · exact soFar
      · exact (inductionHypothesis (engine.countNotification after)).trans soFar

/-- Handing on asks nothing and leaves the place on the chain alone. -/
theorem emit_cursor_calls (engine : Engine NodeState SinkState)
    (notifications : List Notification) (scan : Scan NodeState SinkState) :
    (engine.emit notifications scan).2.cursor = scan.cursor ∧
      (engine.emit notifications scan).2.calls = scan.calls :=
  ⟨emit_keeps Scan.cursor (fun notification scan => (engine.hand_cursor_calls notification scan).1)
      (fun scan => (engine.countNotification_cursor_calls scan).1) notifications scan,
    emit_keeps Scan.calls (fun notification scan => (engine.hand_cursor_calls notification scan).2)
      (fun scan => (engine.countNotification_cursor_calls scan).2) notifications scan⟩

/-- A scan that has moved past a span in which something was found. -/
def movedPast (engine : Engine NodeState SinkState) (range : BlockRange) (found : List Found)
    (scan : Scan NodeState SinkState) : Scan NodeState SinkState :=
  (engine.notifications found scan).2.committed range
    { scan.cursor with lastCommitted? := some range.last }
    (engine.notifications found scan).1.length

/-- The span that was handed out can be committed. What remains is to hand on. -/
theorem finish_eq (engine : Engine NodeState SinkState) (found : List Found)
    (isNext : scan.cursor.next = .ok range.first) :
    engine.finish range found scan =
      ((engine.emit (engine.notifications found scan).1 (engine.movedPast range found scan)).1.map
          fun _ => (engine.notifications found scan).1,
        (engine.emit (engine.notifications found scan).1
          (engine.movedPast range found scan)).2) := by
  have committed : (engine.notifications found scan).2.cursor.commit range =
      .ok { scan.cursor with lastCommitted? := some range.last } :=
    Cursor.commit_of_next isNext
  unfold movedPast
  rw [finish]
  rcases built : engine.notifications found scan with ⟨notifications, read⟩
  rw [built] at committed
  simp only [committed]
  rcases engine.emit notifications _ with ⟨result, after⟩
  cases result <;> rfl

/-- After a commit the cursor stands behind the span, whatever becomes of the notifications. -/
theorem finish_cursor_calls (engine : Engine NodeState SinkState) (found : List Found)
    (isNext : scan.cursor.next = .ok range.first) :
    (engine.finish range found scan).2.cursor =
        { scan.cursor with lastCommitted? := some range.last } ∧
      (engine.finish range found scan).2.calls = scan.calls := by
  rw [engine.finish_eq found isNext]
  exact engine.emit_cursor_calls (engine.notifications found scan).1
    (engine.movedPast range found scan)

/-! ### Notifications handed on -/

theorem countNotification_attempts (engine : Engine NodeState SinkState)
    (scan : Scan NodeState SinkState) :
    (engine.countNotification scan).attempts = scan.attempts := by
  unfold countNotification
  dsimp only
  repeat' split
  all_goals rfl

theorem hand_attempts (engine : Engine NodeState SinkState) (notification : Notification)
    (scan : Scan NodeState SinkState) :
    (engine.hand notification scan).2.attempts = scan.attempts ++ [notification] := by
  unfold hand
  dsimp only
  repeat' split
  all_goals rfl

/-- What is handed on comes first in the list, and is all of it unless a limit or a fault ends the
handing on. -/
theorem emit_attempts (engine : Engine NodeState SinkState) (notifications : List Notification)
    (scan : Scan NodeState SinkState) :
    ∃ handed, handed <+: notifications ∧
      (engine.emit notifications scan).2.attempts = scan.attempts ++ handed ∧
        (engine.config.limit? = none → (engine.emit notifications scan).1 = .ok () →
          handed = notifications) := by
  induction notifications generalizing scan with
  | nil => exact ⟨[], List.prefix_rfl, (List.append_nil _).symm, fun _ _ => rfl⟩
  | cons notification rest inductionHypothesis =>
    have first : [notification] <+: notification :: rest := ⟨rest, rfl⟩
    have attempts := engine.hand_attempts notification scan
    rcases handed : engine.hand notification scan with ⟨result, after⟩
    rw [handed] at attempts
    cases result with
    | error fault =>
      rw [emit_of_fault handed]
      exact ⟨[notification], first, attempts, fun _ ended => by cases ended⟩
    | ok _ =>
      rw [emit_of_handed handed]
      have counted := (engine.countNotification_attempts after).trans attempts
      by_cases limit : engine.atLimit (engine.countNotification after) = true
      · rw [if_pos limit]
        refine ⟨[notification], first, counted, fun unlimited => ?_⟩
        rw [atLimit, unlimited] at limit
        exact absurd limit Bool.false_ne_true
      · rw [if_neg limit]
        obtain ⟨later, isPrefix, laterAttempts, whole⟩ :=
          inductionHypothesis (engine.countNotification after)
        refine ⟨notification :: later, List.cons_prefix_cons.mpr ⟨rfl, isPrefix⟩, ?_,
          fun unlimited ended => congrArg _ (whole unlimited ended)⟩
        rw [laterAttempts, counted, List.append_assoc]
        rfl

/-! ### A sink that only fails to deliver -/

section Contained

variable (unlimited : engine.config.limit? = none) (contained : engine.sink.IsContained)

include contained in
/-- A delivery that fails as one does not end the handing on. -/
theorem hand_contained (notification : Notification) (scan : Scan NodeState SinkState) :
    (engine.hand notification scan).1 = .ok () := by
  have faults := contained notification scan.sink
  unfold hand
  revert faults
  rcases engine.sink notification scan.sink with ⟨⟨result, stop, records⟩, state⟩
  intro faults
  cases result with
  | ok _ => rfl
  | error fault => simp only [if_pos (faults fault rfl)]

include contained in
/-- Failed deliveries do not end the handing on with a fault. -/
theorem emit_accepted (notifications : List Notification)
    (scan : Scan NodeState SinkState) : (engine.emit notifications scan).1 = .ok () := by
  induction notifications generalizing scan with
  | nil => rfl
  | cons notification rest inductionHypothesis =>
    have accepted := engine.hand_contained contained notification scan
    rcases handed : engine.hand notification scan with ⟨result, after⟩
    rw [handed] at accepted
    obtain rfl : result = .ok () := accepted
    rw [emit_of_handed handed]
    split
    · rfl
    · exact inductionHypothesis (engine.countNotification after)

include contained in
theorem finish_accepted (isNext : scan.cursor.next = .ok range.first) (found : List Found) :
    (engine.finish range found scan).1 = .ok (engine.notifications found scan).1 := by
  rw [engine.finish_eq found isNext, engine.emit_accepted contained]
  rfl

include unlimited contained in
/-- Without a limit every notification is handed on. -/
theorem emit_contained (notifications : List Notification) (scan : Scan NodeState SinkState) :
    (engine.emit notifications scan).2.attempts = scan.attempts ++ notifications := by
  obtain ⟨handed, -, attempts, whole⟩ := engine.emit_attempts notifications scan
  rw [attempts, whole unlimited (engine.emit_accepted contained notifications scan)]

include unlimited contained in
theorem finish_contained (isNext : scan.cursor.next = .ok range.first) (found : List Found) :
    (engine.finish range found scan).1 = .ok (engine.notifications found scan).1 ∧
      (engine.finish range found scan).2.attempts =
        scan.attempts ++ (engine.notifications found scan).1 := by
  refine ⟨finish_accepted contained isNext found, ?_⟩
  rw [engine.finish_eq found isNext]
  exact emit_contained unlimited contained _ (engine.movedPast range found scan)

end Contained

end Engine

end BallotWatch
