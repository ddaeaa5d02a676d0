/-
This file holds notifications, one for each ballot that a scan found, and writes their text:
one line per fact, the facts of every ballot around those of its contract, and the memo last,
since it alone may have more than one line. Where a number in the text has too many digits to be
written, there is no text but a fault.
-/

import BallotWatch.Ballot.Event
import BallotWatch.Fault

namespace BallotWatch

/-- A ballot together with where it was found and when it was reported. -/
structure Notification where
  ballot : Ballot
  network : Network
  endpoint : String
  block : Int
  index : Int
  version : Version
  generated : Instant := Instant.epoch
  deriving DecidableEq, Repr

/-- A line of text: what it is about and the fact. -/
abbrev Fact := String × String

/-- The facts of a proposal. -/
def Proposal.facts : Proposal → List Fact
  | keys proposal =>
    [("Affected Key", proposal.affectedKey.written),
      ("Affected Key Type", proposal.affectedKeyKind.name)] ++
      (proposal.newVotingKey?.map fun key => ("New Voting Key", key.written)).toList ++
      (proposal.newPayoutKey?.map fun key => ("New Payout Key", key.written)).toList ++
      [("Mining Key", proposal.miningKey.written)]
  | threshold value => [("Proposed New Min. Threshold", value.written)]
  | proxy address target =>
    [("Proposed New Proxy Address", address.written), ("Target Contract Type", target.written)]
  | emission proposal =>
    [("Creation Time", proposal.created.written), ("Amount", proposal.amount.written),
      ("Receiver", proposal.receiver.written), ("Burn Votes", proposal.burnVotes.written),
      ("Freeze Votes", proposal.freezeVotes.written),
      ("Send Votes", proposal.sendVotes.written)]

/-- The numbers among the facts of a proposal. -/
def Proposal.numbers : Proposal → List Int
  | keys proposal =>
    proposal.affectedKey.numbers ++ (proposal.newVotingKey?.toList.flatMap Datum.numbers) ++
      (proposal.newPayoutKey?.toList.flatMap Datum.numbers) ++ proposal.miningKey.numbers
  | threshold value => value.numbers
  | proxy address target => address.numbers ++ target.numbers
  | emission proposal =>
    proposal.amount.numbers ++ proposal.receiver.numbers ++ proposal.burnVotes.numbers ++
      proposal.freezeVotes.numbers ++ proposal.sendVotes.numbers

namespace Notification

/-- The contract that the ballot belongs to. -/
def contract (notification : Notification) : ContractKind :=
  notification.ballot.contract

/-- The facts of a notification, in the order of its text. -/
def facts (notification : Notification) : List Fact :=
  let ballot := notification.ballot
  let contract := s!"{ballot.contract.contractName} ({notification.version.name})"
  [("Network", notification.network.name), ("RPC Endpoint", notification.endpoint),
    ("Contract", contract), ("Block Number", toString notification.block),
    ("Ballot ID", ballot.id.written), ("Ballot Type", ballot.kind.name),
    ("Voting Start Time", ballot.starts.written), ("Voting End Time", ballot.ends.written)] ++
    ballot.proposal.facts ++ [("Ballot Creator", ballot.creator.written),
      ("Memo", ballot.memo.written)]

/-- A fact as a line. -/
def line (fact : Fact) : String :=
  fact.1 ++ ": " ++ fact.2 ++ "\n"

/-- The text of a notification. -/
def text (notification : Notification) : String :=
  String.join (notification.facts.map line)

/-- The numbers in the text of a notification, which may have any number of digits. -/
def numbers (notification : Notification) : List Int :=
  let ballot := notification.ballot
  notification.block :: (ballot.id.numbers ++ ballot.proposal.numbers ++ ballot.creator.numbers ++
    ballot.memo.numbers)

/-- Whether every number in the text can be written. -/
def isWritable (notification : Notification) : Bool :=
  notification.numbers.all Text.Numeral.isWritable

/-- The text as it is passed on, if it can be written. -/
def body (notification : Notification) : Except Fault String :=
  if notification.isWritable then .ok notification.text else .error .unwritable

end Notification

end BallotWatch
