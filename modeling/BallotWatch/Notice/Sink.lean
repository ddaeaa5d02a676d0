/-
This file says what becomes of a notification once it has been found. A sink takes it and
answers whether it was delivered; a group of sinks hands it to each of them in turn.

A failed delivery does not keep a group from its other sinks: the failures are told together at
the end. Any other fault ends the group's turn at once.
-/

import BallotWatch.Fault
import BallotWatch.Journal
import BallotWatch.Notice.Notification

namespace BallotWatch

/-- How the delivery of a notification went: its result, whether the watch was asked to stop
meanwhile, and the records written about it. -/
structure Delivery where
  result : Except Fault Unit := .ok ()
  stop : Bool := false
  records : List Journal.Record := []

/-- What takes notifications, over a state of its own. -/
abbrev Sink (State : Type) := Notification → State → Delivery × State

namespace Sink

variable {State : Type}

/-! ### The journal as a sink -/

/-- A record about a delivery. -/
def record (level : Journal.Level) (text : String) : Journal.Record :=
  ⟨level, .notice, text⟩

/-- The line that sums a notification up. -/
def summary (notification : Notification) : String :=
  let ballot := notification.ballot
  s!"governance notification: ballot={ballot.kind.name} ballot_id={ballot.id.written} " ++
    s!"block_number={notification.block} contract={notification.contract.name}"

/-- What the journal makes of a notification: a summary and, if asked, the whole text behind it. A
text that cannot be written is a fault, and only the summary is left. -/
def recorded (withText : Bool) (notification : Notification) : Delivery :=
  let first := record .info (summary notification)
  if withText then
    match notification.body with
    | .error fault => { result := .error fault, records := [first] }
    | .ok text => { records := [first, record .info ("governance notification\n" ++ text)] }
  else { records := [first] }

/-- Writes notifications to the journal. -/
def journal (withText : Bool) : Sink State := fun notification state =>
  (recorded withText notification, state)

/-! ### Groups -/

/-- Hands a notification to sinks one after another. The texts of the failures so far come
along. -/
def handToEach (notification : Notification) (failures : List String) :
    List (Sink State) → State → Delivery × State
  | [], state =>
    let result : Except Fault Unit :=
      if failures.isEmpty then .ok ()
      else .error (.of .dispatch (some ("; ".intercalate failures)))
    ({ result }, state)
  | sink :: rest, state =>
    let (delivery, state) := sink notification state
    match delivery.result with
    | .ok () =>
      let (later, state) := handToEach notification failures rest state
      ({ later with
          stop := delivery.stop || later.stop
          records := delivery.records ++ later.records }, state)
    | .error fault =>
      if fault.kind = .dispatch then
        let (later, state) := handToEach notification (failures ++ [fault.message]) rest state
        ({ later with
            stop := delivery.stop || later.stop
            records := delivery.records ++ later.records }, state)
      else (delivery, state)

/-- A group of sinks. -/
def group (sinks : List (Sink State)) : Sink State := fun notification state =>
  handToEach notification [] sinks state

/-! ### Other states -/

/-- A sink that plays a plan: the deliveries of a list one after another, and success once the
list has run out. -/
def planned : Sink (List Delivery) := fun _ plan =>
  (plan.head?.getD {}, plan.tail)

/-- A sink over a part of a larger state. -/
def onPart {Part : Type} (get : State → Part) (set : Part → State → State) (sink : Sink Part) :
    Sink State := fun notification state =>
  let (delivery, part) := sink notification (get state)
  (delivery, set part state)

end Sink

end BallotWatch
