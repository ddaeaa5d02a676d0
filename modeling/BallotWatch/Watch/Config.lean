/-
This file builds the configuration of a watch from what was selected and from the settings, and
refuses every selection that could not be watched: before anything is asked of a node, each
selected contract is known to exist, to have a layout and to have an address. Which texts are
addresses is a rule that comes with the settings.
-/

import BallotWatch.Scan.Config
import BallotWatch.Settings.Basic

namespace BallotWatch

/-- What was selected: the contracts, where to start, the seconds between two rounds, and how
many notifications to make at most. -/
structure Selection where
  network : Network
  version : Version
  kinds : List ContractKind
  start : StartMode
  blockTime : Decimal.Binary
  limit? : Option Int := none
  deriving Repr

/-- Why a selection cannot be watched. -/
inductive SelectionFault
  | unsupported (network : Network) (version : Version)
  | nothingSelected
  | blockTime (seconds : Decimal.Binary)
  | limit (number : Int)
  | missing (variableName : String)
  | layout (fault : LayoutFault)
  | badAddress (variableName text : String)
  deriving DecidableEq, Repr

/-- The fault in words. -/
def SelectionFault.message : SelectionFault → String
  | unsupported network version =>
    s!"the {network.name} network has no {version.name} contracts"
  | nothingSelected => "select at least one contract to monitor"
  | .blockTime seconds => s!"block time must be positive, got {seconds.written}"
  | .limit number => s!"notification limit must be >= 1, got {number}"
  | missing variableName => s!"missing env var {variableName}"
  | .layout fault => fault.message
  | badAddress variableName text =>
    s!"{variableName} is not a valid address: {Text.quoted text}"

/-- The fault as it is passed on. -/
def SelectionFault.toFault (fault : SelectionFault) : Fault :=
  match fault with
  | .limit number => .telling [number] .config fault.message
  | _ => ⟨.config, fault.message⟩

namespace Selection

/-- The address of a selected contract, with its checksum. -/
def address (selection : Selection) (settings : Settings) (rule : Address.Rule)
    (kind : ContractKind) : Except SelectionFault String :=
  match Registry.standard.layout kind selection.version with
  | .error fault => .error (.layout fault)
  | .ok _ =>
    let variableName :=
      Settings.variableName (Settings.addressName selection.network selection.version kind)
    match settings.address? selection.network selection.version kind with
    | none => .error (.missing variableName)
    | some text =>
      match rule.checksummed? text with
      | none => .error (.badAddress variableName text)
      | some address => .ok address

/-- The addresses of contracts as they are looked up, one after another. -/
def addresses (lookUp : ContractKind → Except SelectionFault String) :
    List ContractKind → Except SelectionFault (List (ContractKind × String))
  | [] => .ok []
  | kind :: rest =>
    match lookUp kind with
    | .error fault => .error fault
    | .ok address => (addresses lookUp rest).map ((kind, address) :: ·)

/-- A limit that leaves no room for a notification. -/
def lowLimit? (limit? : Option Int) : Option Int :=
  limit?.filter fun limit => decide (limit < 1)

/-- The configuration for a selection. -/
def config (selection : Selection) (settings : Settings) (rule : Address.Rule := .standard) :
    Except SelectionFault WatchConfig :=
  let network := selection.network
  let version := selection.version
  let kinds := ContractKind.inScanOrder selection.kinds
  if network.supports version = false then .error (.unsupported network version)
  else if selection.kinds.isEmpty then .error .nothingSelected
  else if selection.blockTime.isAtMostZero then .error (.blockTime selection.blockTime)
  else
    match lowLimit? selection.limit? with
    | some limit => .error (.limit limit)
    | none =>
      match settings.endpoint? network with
      | none => .error (.missing (Settings.variableName (Settings.endpointName network)))
      | some endpoint =>
        (addresses (selection.address settings rule) kinds).map fun addresses =>
          { network, endpoint, version, kinds, addresses
            start := selection.start
            pollInterval := selection.blockTime
            limit? := selection.limit? }

end Selection

end BallotWatch
