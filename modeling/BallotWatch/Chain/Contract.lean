/-
This file names the governance contracts: the networks they run on, the two generations that
the hard fork set apart, and the four subjects they vote on. The order of the four is the order
in which they are asked for their logs.
-/

namespace BallotWatch

/-- The networks with governance contracts. -/
inductive Network
  | core
  | sokol
  | xdai
  deriving DecidableEq, Repr, Inhabited

/-- The generations of contracts, before and after the hard fork. -/
inductive Version
  | v1
  | v2
  deriving DecidableEq, Repr, Inhabited

/-- The governance contracts, by what they vote on. -/
inductive ContractKind
  | keys
  | threshold
  | proxy
  | emission
  deriving DecidableEq, Repr, Inhabited

namespace Network

/-- The name of a network. -/
def name : Network → String
  | core => "core"
  | sokol => "sokol"
  | xdai => "xdai"

/-- All networks. -/
def all : List Network :=
  [core, sokol, xdai]

/-- Whether a network has contracts of a generation. The newest network was started after the
hard fork. -/
def supports : Network → Version → Bool
  | xdai, .v1 => false
  | _, _ => true

end Network

namespace Version

/-- The name of a generation. -/
def name : Version → String
  | v1 => "v1"
  | v2 => "v2"

/-- Both generations. -/
def all : List Version :=
  [v1, v2]

end Version

namespace ContractKind

/-- The name of a kind. -/
def name : ContractKind → String
  | keys => "keys"
  | threshold => "threshold"
  | proxy => "proxy"
  | emission => "emission"

/-- The name a kind has among the values of settings and faults. -/
def label : ContractKind → String
  | keys => "KEYS"
  | threshold => "THRESHOLD"
  | proxy => "PROXY"
  | emission => "EMISSION_FUNDS"

/-- The name of the contract that a kind stands for. -/
def contractName : ContractKind → String
  | keys => "VotingToChangeKeys.sol"
  | threshold => "VotingToChangeMinThreshold.sol"
  | proxy => "VotingToChangeProxyAddress.sol"
  | emission => "VotingToManageEmissionFunds.sol"

/-- All kinds, in the order of the scan. -/
def all : List ContractKind :=
  [keys, threshold, proxy, emission]

/-- The kinds of a selection, each once and in the order of the scan. -/
def inScanOrder (selected : List ContractKind) : List ContractKind :=
  all.filter fun kind => selected.contains kind

theorem mem_all (kind : ContractKind) : kind ∈ all := by
  cases kind <;> decide

theorem mem_inScanOrder {selected : List ContractKind} {kind : ContractKind} :
    kind ∈ inScanOrder selected ↔ kind ∈ selected := by
  simp [inScanOrder, mem_all]

end ContractKind

end BallotWatch
