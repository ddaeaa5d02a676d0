/-
This file is one round of a scan, a tick.

A tick asks for the newest block, and for each contract for its logs from the next block to
that one. Only when every contract has answered are the blocks committed, and only then are the
ballots found in them handed on, in the order of the chain. A fault of the network or of an
answer ends the tick and leaves the cursor where it was, so the next tick asks again from the
same block. An entry that cannot be decoded is left out; a notification that cannot be
delivered is counted; and the limit on notifications ends the handing on.
-/

import BallotWatch.Ballot.Decode
import BallotWatch.Chain.Cursor
import BallotWatch.Notice.Sink
import BallotWatch.Scan.Config
import BallotWatch.Scan.Counters
import BallotWatch.Scan.World

namespace BallotWatch

open Journal (Level)

/-! ### The state of a scan -/

/-- A question put to the node. -/
inductive Call
  | tip
  | logs (query : Node.LogQuery)
  deriving Repr

/-- A scan under way: the states of the node and the sink, the clock, the place on the chain,
the counters, whether the limit was reached or the scan was asked to stop, and what was done:
the records written, the questions asked, and the notifications handed to the sink. -/
structure Scan (NodeState SinkState : Type) where
  node : NodeState
  sink : SinkState
  clock : Clock := {}
  cursor : Cursor := {}
  counters : Counters := {}
  limitReached : Bool := false
  stopped : Bool := false
  journal : List Journal.Record := []
  calls : List Call := []
  attempts : List Notification := []

/-- What stays the same during a scan: its configuration and contracts, and the node and the
sink it works with. -/
structure Engine (NodeState SinkState : Type) where
  config : WatchConfig
  contracts : List Monitored
  node : NodeAccess NodeState
  sink : Sink SinkState

/-- A ballot and the entry it was found in. -/
structure Found where
  entry : LogEntry
  ballot : Ballot
  deriving DecidableEq, Repr

variable {NodeState SinkState : Type}

namespace Scan

/-- Writes a record. -/
def note (scan : Scan NodeState SinkState) (level : Level) (text : String) :
    Scan NodeState SinkState :=
  { scan with journal := scan.journal ++ [⟨level, .scan, text⟩] }

/-- Changes the counters. -/
def count (scan : Scan NodeState SinkState) (change : Counters → Counters) :
    Scan NodeState SinkState :=
  { scan with counters := change scan.counters }

/-- Moves on past a span of blocks in which some ballots were found. -/
def committed (scan : Scan NodeState SinkState) (range : BlockRange) (cursor : Cursor)
    (ballots : Nat) : Scan NodeState SinkState :=
  let scan := { scan with cursor }.count fun counters =>
    { counters with rangesCommitted := counters.rangesCommitted + 1 }
  scan.note .info s!"finished checking blocks {range.written} ({ballots} ballots)"

/-- Counts a tick that failed. -/
def countFailure (scan : Scan NodeState SinkState) : Scan NodeState SinkState :=
  scan.count fun counters => { counters with failedTicks := counters.failedTicks + 1 }

end Scan

namespace Engine

/-- An engine for a configuration, if its contracts can be found. -/
def make (config : WatchConfig) (registry : Registry) (node : NodeAccess NodeState)
    (sink : Sink SinkState) : Except SetupFault (Engine NodeState SinkState) :=
  (config.contracts registry).map fun contracts => ⟨config, contracts, node, sink⟩

/-! ### Questions -/

/-- Asks for the newest block. -/
def askTip (engine : Engine NodeState SinkState) (scan : Scan NodeState SinkState) :
    Except Fault Int × Scan NodeState SinkState :=
  let (outcome, node) := engine.node.tip scan.node
  (outcome.result,
    { scan with
      node
      stopped := scan.stopped || outcome.stop
      calls := scan.calls ++ [.tip] })

/-- Asks for logs. -/
def askLogs (engine : Engine NodeState SinkState) (query : Node.LogQuery)
    (scan : Scan NodeState SinkState) :
    Except Fault (List LogEntry) × Scan NodeState SinkState :=
  let (outcome, node) := engine.node.logs query scan.node
  (outcome.result,
    { scan with
      node
      stopped := scan.stopped || outcome.stop
      calls := scan.calls ++ [.logs query] })

/-! ### From logs to notifications -/

/-- The record about an entry that is left out. -/
def skipText (layout : Layout) (entry : LogEntry) (fault : DecodeFault) : String :=
  s!"skipping {layout.kind.name} log at block {entry.block} index {entry.index}: " ++
    s!"{fault.label}: {fault.message}"

/-- Decodes entries. Those that are no ballots are left out, with a record. -/
def decodeEntries (layout : Layout) :
    List LogEntry → Scan NodeState SinkState →
      Except Fault (List Found) × Scan NodeState SinkState
  | [], scan => (.ok [], scan)
  | entry :: rest, scan =>
    match layout.decode entry with
    | .ok ballot =>
      let scan := scan.count fun counters => { counters with decoded := counters.decoded + 1 }
      let (found, scan) := decodeEntries layout rest scan
      (found.map (⟨entry, ballot⟩ :: ·), scan)
    | .error fault =>
      if fault.isOfEntry then
        let scan := scan.note .error (skipText layout entry fault)
        decodeEntries layout rest
          (scan.count fun counters => { counters with skipped := counters.skipped + 1 })
      else (.error fault.toFault, scan)

/-- Asks contracts for their logs in a span of blocks and decodes the answers. There is no list
when one of the contracts could not be asked. -/
def collect (engine : Engine NodeState SinkState) (range : BlockRange) :
    List Monitored → Scan NodeState SinkState →
      Except Fault (Option (List Found)) × Scan NodeState SinkState
  | [], scan => (.ok (some []), scan)
  | contract :: rest, scan =>
    match engine.askLogs ⟨contract.address, contract.layout.topic, range⟩ scan with
    | (.error fault, scan) =>
      let aborting := s!"aborting range {range.written}, {contract.kind.name} query"
      match fault.kind with
      | .network => (.ok none, scan.note .warning s!"{aborting} failed: {fault.message}")
      | .rpc =>
        (.ok none, scan.note .error s!"{aborting} returned a bad response: {fault.message}")
      | _ => (.error fault, scan)
    | (.ok entries, scan) =>
      let scan := scan.count fun counters =>
        { counters with totalLogs := counters.totalLogs + entries.length }
      match decodeEntries contract.layout entries scan with
      | (.error fault, scan) => (.error fault, scan)
      | (.ok found, scan) =>
        match engine.collect range rest scan with
        | (.error fault, scan) => (.error fault, scan)
        | (.ok later?, scan) => (.ok (later?.map (found ++ ·)), scan)

/-- The notification of a ballot. -/
def notification (engine : Engine NodeState SinkState) (generated : Instant) (found : Found) :
    Notification :=
  { ballot := found.ballot
    network := engine.config.network
    endpoint := engine.config.endpoint
    block := found.entry.block
    index := found.entry.index
    version := engine.config.version
    generated }

/-- The notifications of ballots, in the order of the chain. All are as of one reading of the
clock. -/
def notifications (engine : Engine NodeState SinkState) (found : List Found)
    (scan : Scan NodeState SinkState) : List Notification × Scan NodeState SinkState :=
  let ordered := sortByPosition (fun item : Found => item.entry.position) found
  (ordered.map (engine.notification scan.clock.now),
    { scan with clock := scan.clock.afterReading })

/-! ### Handing on -/

/-- Counts a notification that was handed on, and takes note when that reaches the limit. -/
def countNotification (engine : Engine NodeState SinkState) (scan : Scan NodeState SinkState) :
    Scan NodeState SinkState :=
  let scan := scan.count fun counters =>
    { counters with notifications := counters.notifications + 1 }
  match engine.config.limit? with
  | none => scan
  | some limit =>
    if limit ≤ scan.counters.notifications then
      { scan.note .warning s!"reached notification limit ({limit}), shutting down" with
        limitReached := true }
    else scan

/-- Whether the limit ends the handing on after the notifications counted so far. -/
def atLimit (engine : Engine NodeState SinkState) (scan : Scan NodeState SinkState) : Bool :=
  match engine.config.limit? with
  | none => false
  | some limit => decide (limit ≤ scan.counters.notifications)

/-- Hands one notification to the sink. A failed delivery is counted; any other fault is the
result. -/
def hand (engine : Engine NodeState SinkState) (notification : Notification)
    (scan : Scan NodeState SinkState) : Except Fault Unit × Scan NodeState SinkState :=
  let (delivery, sink) := engine.sink notification scan.sink
  let scan :=
    { scan with
      sink
      stopped := scan.stopped || delivery.stop
      journal := scan.journal ++ delivery.records
      attempts := scan.attempts ++ [notification] }
  match delivery.result with
  | .ok () => (.ok (), scan)
  | .error fault =>
    if fault.kind = .dispatch then
      let scan := scan.count fun counters =>
        { counters with dispatchFailures := counters.dispatchFailures + 1 }
      let what := s!"{notification.contract.name} ballot {notification.ballot.id.written}"
      (.ok (), scan.note .error s!"failed to dispatch {what}: {fault.message}")
    else (.error fault, scan)

/-- Hands notifications to the sink one after another, up to the limit. -/
def emit (engine : Engine NodeState SinkState) :
    List Notification → Scan NodeState SinkState → Except Fault Unit × Scan NodeState SinkState
  | [], scan => (.ok (), scan)
  | notification :: rest, scan =>
    match engine.hand notification scan with
    | (.error fault, scan) => (.error fault, scan)
    | (.ok (), scan) =>
      let scan := engine.countNotification scan
      if engine.atLimit scan then (.ok (), scan) else engine.emit rest scan

/-! ### A tick -/

/-- Fixes the first block, unless it is known already. -/
def anchor (engine : Engine NodeState SinkState) (tip : Int)
    (scan : Scan NodeState SinkState) : Except Fault Unit × Scan NodeState SinkState :=
  if scan.cursor.isAnchored then (.ok (), scan)
  else
    match Cursor.anchored engine.config.start tip with
    | .error fault => (.error fault.toFault, scan)
    | .ok (_, cursor) => (.ok (), { scan with cursor })

/-- Commits a span of blocks and hands on the notifications found in it. -/
def finish (engine : Engine NodeState SinkState) (range : BlockRange) (found : List Found)
    (scan : Scan NodeState SinkState) :
    Except Fault (List Notification) × Scan NodeState SinkState :=
  let (notifications, scan) := engine.notifications found scan
  match scan.cursor.commit range with
  | .error fault => (.error fault.toFault, scan)
  | .ok cursor =>
    match engine.emit notifications (scan.committed range cursor notifications.length) with
    | (.error fault, scan) => (.error fault, scan)
    | (.ok (), scan) => (.ok notifications, scan)

/-- Scans from the next block to the newest one. -/
def advance (engine : Engine NodeState SinkState) (tip : Int)
    (scan : Scan NodeState SinkState) :
    Except Fault (List Notification) × Scan NodeState SinkState :=
  match scan.cursor.nextRange tip with
  | .error fault => (.error fault.toFault, scan)
  | .ok none => (.ok [], scan.note .debug s!"no new blocks (tip={tip})")
  | .ok (some range) =>
    match engine.collect range engine.contracts scan with
    | (.error fault, scan) => (.error fault, scan)
    | (.ok none, scan) => (.ok [], scan.countFailure)
    | (.ok (some found), scan) => engine.finish range found scan

/-- One round of the scan. The result is the list of notifications found, whatever became of
their delivery. -/
def tick (engine : Engine NodeState SinkState) (scan : Scan NodeState SinkState) :
    Except Fault (List Notification) × Scan NodeState SinkState :=
  let scan := scan.count fun counters => { counters with ticks := counters.ticks + 1 }
  match engine.askTip scan with
  | (.error fault, scan) =>
    match fault.kind with
    | .network =>
      (.ok [],
        (scan.note .warning s!"skipping tick, node unreachable: {fault.message}").countFailure)
    | .rpc =>
      (.ok [], (scan.note .error
        s!"skipping tick, bad eth_blockNumber response: {fault.message}").countFailure)
    | _ => (.error fault, scan)
  | (.ok tip, scan) =>
    match engine.anchor tip scan with
    | (.error fault, scan) => (.error fault, scan)
    | (.ok (), scan) => engine.advance tip scan

end Engine

end BallotWatch
