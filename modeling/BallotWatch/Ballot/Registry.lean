/-
This file lists the events of the governance contracts. The first generation puts the memo
last. The second starts every event with the same six fields and ends with those of its
subject, and only it has the contract for emission funds.
-/

import BallotWatch.Ballot.Layout

namespace BallotWatch

/-- The layouts known to a scan. -/
abbrev Registry := List Layout

namespace Registry

/-! ### The events -/

/-- The fields that every event of the second generation starts with. -/
def commonParameters : String :=
  "uint256 id, uint256 ballotType, address creator, uint256 startTime, uint256 endTime, " ++
    "string memo"

/-- The signature of the event of a contract, where there is such a contract. -/
def signature? : ContractKind → Version → Option String
  | .keys, .v1 => some <|
    "BallotCreated(uint256 id, uint256 startTime, uint256 endTime, address affectedKey, " ++
      "uint256 affectedKeyType, address miningKey, uint256 ballotType, address creator, " ++
      "string memo)"
  | .threshold, .v1 => some <|
    "BallotCreated(uint256 id, uint256 startTime, uint256 endTime, uint256 proposedValue, " ++
      "address creator, string memo)"
  | .proxy, .v1 => some <|
    "BallotCreated(uint256 id, uint256 startTime, uint256 endTime, address proposedValue, " ++
      "uint256 contractType, address creator, string memo)"
  | .emission, .v1 => none
  | .keys, .v2 => some <|
    "BallotCreated(" ++ commonParameters ++ ", address affectedKey, uint256 affectedKeyType, " ++
      "address newVotingKey, address newPayoutKey, address miningKey)"
  | .threshold, .v2 => some <|
    "BallotCreated(" ++ commonParameters ++ ", uint256 proposedValue)"
  | .proxy, .v2 => some <|
    "BallotCreated(" ++ commonParameters ++ ", address proposedValue, uint256 contractType)"
  | .emission, .v2 => some <|
    "BallotCreated(" ++ commonParameters ++ ", uint256 creationTime, uint256 amount, " ++
      "address receiver, uint256 burnVotes, uint256 freezeVotes, uint256 sendVotes)"

/-- The pairs of contract and generation that have an event, in the order of the list. -/
def pairs : List (ContractKind × Version) :=
  [(.keys, .v1), (.threshold, .v1), (.proxy, .v1), (.keys, .v2), (.threshold, .v2),
    (.proxy, .v2), (.emission, .v2)]

/-- The layout of the event of a contract. -/
def standardLayout? (kind : ContractKind) (version : Version) : Option Layout :=
  (signature? kind version).bind fun text => (Layout.ofSignature kind version text).toOption

/-- The layouts of some of the events. -/
def ofPairs (pairs : List (ContractKind × Version)) : Registry :=
  pairs.filterMap fun (kind, version) => standardLayout? kind version

/-- The layouts of all events. -/
def standard : Registry :=
  ofPairs pairs

/-! ### Looking up -/

/-- The layout of a contract and a generation; there must be one. -/
def layout (registry : Registry) (kind : ContractKind) (version : Version) :
    Except LayoutFault Layout :=
  match List.find? (fun layout => layout.kind == kind && layout.version == version) registry with
  | some layout => .ok layout
  | none => .error (.missing kind version)

end Registry

end BallotWatch
