/-
This file holds what a scan is told before it starts, and finds out which contracts it has to
ask: each selected one once, in the fixed order, with its address and the layout of its event.
-/

import BallotWatch.Ballot.Registry
import BallotWatch.Chain.Start
import BallotWatch.Decimal.Written

namespace BallotWatch

/-- What a scan is told: the node and the contracts to watch, where to start, how long to wait
between two rounds, and after how many notifications to stop. -/
structure WatchConfig where
  network : Network
  endpoint : String
  version : Version
  kinds : List ContractKind
  addresses : List (ContractKind × String)
  start : StartMode
  pollInterval : Decimal.Binary
  limit? : Option Int := none
  deriving Repr

/-- A contract that is asked for its logs in every round. -/
structure Monitored where
  kind : ContractKind
  address : String
  layout : Layout
  deriving Repr

/-- Why a scan cannot be set up. -/
inductive SetupFault
  | noKinds
  | unsupported (network : Network) (version : Version)
  | layout (fault : LayoutFault)
  | noAddress (network : Network) (version : Version) (kind : ContractKind)
  deriving DecidableEq, Repr

/-- The fault in words. -/
def SetupFault.message : SetupFault → String
  | noKinds => "no contract types selected for monitoring"
  | unsupported network version =>
    s!"the {network.name} network has no {version.name} contracts"
  | .layout fault => fault.message
  | noAddress network version kind =>
    s!"no {network.name}/{version.name} address configured for the {kind.name} contract"

/-- The fault as it is passed on. -/
def SetupFault.toFault (fault : SetupFault) : Fault :=
  ⟨.config, fault.message⟩

namespace WatchConfig

/-- The contract of a kind. An empty address counts as none. -/
def monitored (config : WatchConfig) (registry : Registry) (kind : ContractKind) :
    Except SetupFault Monitored :=
  match registry.layout kind config.version with
  | .error fault => .error (.layout fault)
  | .ok layout =>
    match config.addresses.lookup kind with
    | some address =>
      if address.isEmpty then .error (.noAddress config.network config.version kind)
      else .ok ⟨kind, address, layout⟩
    | none => .error (.noAddress config.network config.version kind)

/-- The contracts of kinds, one after another. -/
def monitoredAll (config : WatchConfig) (registry : Registry) :
    List ContractKind → Except SetupFault (List Monitored)
  | [] => .ok []
  | kind :: rest =>
    match config.monitored registry kind with
    | .error fault => .error fault
    | .ok first => (config.monitoredAll registry rest).map (first :: ·)

/-- The contracts to ask, in the order of the scan. -/
def contracts (config : WatchConfig) (registry : Registry) :
    Except SetupFault (List Monitored) :=
  if config.kinds.isEmpty then .error .noKinds
  else if config.network.supports config.version then
    config.monitoredAll registry (ContractKind.inScanOrder config.kinds)
  else .error (.unsupported config.network config.version)

end WatchConfig

end BallotWatch
