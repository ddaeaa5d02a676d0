/-
This file holds ballots as they are announced: what every ballot has, and what it proposes,
which depends on the contract it belongs to.
-/

import BallotWatch.Chain.Contract
import BallotWatch.Time.Instant

namespace BallotWatch

/-! ### Values -/

/-- A value that a ballot was announced with. The layout of the event decides whether a place
holds a number or a text, and an address is a text. -/
inductive Datum
  | number (value : Int)
  | text (text : String)
  deriving DecidableEq, Repr

/-- A value as text. -/
def Datum.written : Datum → String
  | number value => toString value
  | text content => content

/-- The number that a value is, if it is one. -/
def Datum.numbers : Datum → List Int
  | number value => [value]
  | text _ => []

/-! ### Kinds of ballots and keys -/

/-- What a ballot is about. -/
inductive BallotKind
  | invalidKey
  | addKey
  | removeKey
  | swapKey
  | threshold
  | proxy
  | emission
  deriving DecidableEq, Repr, Inhabited

namespace BallotKind

/-- The name of a kind. -/
def name : BallotKind → String
  | invalidKey => "INVALID_KEY"
  | addKey => "ADD_KEY"
  | removeKey => "REMOVE_KEY"
  | swapKey => "SWAP_KEY"
  | threshold => "THRESHOLD"
  | proxy => "PROXY"
  | emission => "EMISSION"

/-- All kinds, in the order of their numbers. -/
def all : List BallotKind :=
  [invalidKey, addKey, removeKey, swapKey, threshold, proxy, emission]

/-- The kind with a number. -/
def ofNumber? (number : Nat) : Option BallotKind :=
  all[number]?

/-- The kind that a value stands for, which only a number can do. -/
def ofDatum? : Datum → Option BallotKind
  | .number value => if value < 0 then none else ofNumber? value.toNat
  | .text _ => none

end BallotKind

/-- What a validator's key is used for. -/
inductive KeyKind
  | invalidKey
  | miningKey
  | votingKey
  | payoutKey
  deriving DecidableEq, Repr, Inhabited

namespace KeyKind

/-- The name of a kind. -/
def name : KeyKind → String
  | invalidKey => "INVALID_KEY"
  | miningKey => "MINING_KEY"
  | votingKey => "VOTING_KEY"
  | payoutKey => "PAYOUT_KEY"

/-- All kinds, in the order of their numbers. -/
def all : List KeyKind :=
  [invalidKey, miningKey, votingKey, payoutKey]

/-- The kind with a number. -/
def ofNumber? (number : Nat) : Option KeyKind :=
  all[number]?

/-- The kind that a value stands for, which only a number can do. -/
def ofDatum? : Datum → Option KeyKind
  | .number value => if value < 0 then none else ofNumber? value.toNat
  | .text _ => none

end KeyKind

/-! ### Proposals -/

/-- A change of a validator's keys. The two new keys are known only in the second
generation. -/
structure KeysProposal where
  affectedKey : Datum
  affectedKeyKind : KeyKind
  miningKey : Datum
  newVotingKey? : Option Datum := none
  newPayoutKey? : Option Datum := none
  deriving DecidableEq, Repr

/-- What is to become of the emission funds, and the votes so far. -/
structure EmissionProposal where
  created : Instant
  amount : Datum
  receiver : Datum
  burnVotes : Datum
  freezeVotes : Datum
  sendVotes : Datum
  deriving DecidableEq, Repr

/-- What a ballot proposes. -/
inductive Proposal
  | keys (proposal : KeysProposal)
  | threshold (value : Datum)
  | proxy (address target : Datum)
  | emission (proposal : EmissionProposal)
  deriving DecidableEq, Repr

/-- The contract that a proposal belongs to. -/
def Proposal.contract : Proposal → ContractKind
  | keys _ => .keys
  | threshold _ => .threshold
  | proxy _ _ => .proxy
  | emission _ => .emission

/-- A ballot. -/
structure Ballot where
  id : Datum
  kind : BallotKind
  starts : Instant
  ends : Instant
  creator : Datum
  memo : Datum
  proposal : Proposal
  deriving DecidableEq, Repr

/-- The contract that a ballot belongs to. -/
def Ballot.contract (ballot : Ballot) : ContractKind :=
  ballot.proposal.contract

end BallotWatch
