/-
This file watches: it says in the journal what is going to be watched, and then scans until
asked to stop or until the limit is reached.
-/

import BallotWatch.Scan.Run

namespace BallotWatch

variable {NodeState SinkState : Type}

/-- The records at the start of a watch. -/
def Engine.opening (engine : Engine NodeState SinkState) : List Journal.Record :=
  let config := engine.config
  let info (text : String) : Journal.Record := ⟨.info, .watch, text⟩
  [info "starting govwatch",
    info s!"  Network: {config.network.name} ({config.version.name} contracts)",
    info s!"  RPC: {config.endpoint}"] ++
    engine.contracts.map (fun contract =>
      info s!"  {contract.layout.kind.contractName}: {contract.address}") ++
    [info s!"  Start: {config.start.written}, block time {config.pollInterval.toTenths}s"]

/-- Watches with the layouts of the governance contracts. -/
def watch (config : WatchConfig) (node : NodeAccess NodeState) (sink : Sink SinkState)
    (scan : Scan NodeState SinkState) : Except Fault Unit × Scan NodeState SinkState :=
  match Engine.make config Registry.standard node sink with
  | .error fault => (.error fault.toFault, scan)
  | .ok engine => engine.run { scan with journal := scan.journal ++ engine.opening }

/-- Watches over a client of the configured endpoint, which is closed at the end whatever
happened. -/
def watchOverClient (config : WatchConfig) (sink : Sink SinkState)
    (scan : Scan Node.Client SinkState) : Except Fault Unit × Scan Node.Client SinkState :=
  let node := { scan.node with endpoint := .ofText config.endpoint }
  let (result, scan) := watch config Node.Client.access sink { scan with node }
  (result, { scan with node := scan.node.close })

end BallotWatch
