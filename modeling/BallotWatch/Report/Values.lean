/-
This file gives what a watch reads and finds a form in JSON, for other programs: layouts, log
entries, ballots and notifications. Points in time are texts, bytes are hexadecimal behind
their mark, and a whole number that not every reader of JSON keeps exactly is a text of digits.
-/

import BallotWatch.Ballot.Layout
import BallotWatch.Chain.LogEntry
import BallotWatch.Json.Value
import BallotWatch.Notice.Notification

namespace BallotWatch.Report

/-- The greatest size of whole numbers that every reader of JSON keeps exactly. -/
def exactLimit : Nat :=
  0x1fffffffffffff

/-- A whole number. -/
def number (value : Int) : Json :=
  if value.natAbs ≤ exactLimit then .int value else .str (toString value)

/-- A value of a ballot. -/
def datum : Datum → Json
  | .number value => number value
  | .text text => .str text

/-- A value that may be missing. -/
def optional {Value : Type} (form : Value → Json) : Option Value → Json
  | none => .null
  | some value => form value

/-- A list of texts. -/
def texts (texts : List String) : Json :=
  .arr (texts.map .ofString)

/-- Some bytes. -/
def bytes (bytes : List UInt8) : Json :=
  .str (Bytes.toMarkedHex bytes)

/-- A point in time. -/
def instant (instant : Instant) : Json :=
  .str instant.written

/-- A field of a layout: its name, the index of its word, its type, and whether the word holds
an offset. -/
def field (field : Field) (index : Nat) : Json :=
  .arr [.str field.name, number index, .str field.type.name, .bool field.type.isDynamic]

/-- A layout. -/
def layout (layout : Layout) : Json :=
  .obj [
    ("type", .str layout.kind.name),
    ("version", .str layout.version.name),
    ("signature", .str layout.signature),
    ("topic0", .str layout.topic),
    ("head_words", number layout.headWords),
    ("key", texts [layout.kind.name, layout.version.name]),
    ("fields", .arr (layout.fields.zipIdx.map fun (item, index) => field item index))]

/-- A log entry. -/
def logEntry (entry : LogEntry) : Json :=
  .obj [
    ("contract_address", .str entry.address),
    ("topics", texts entry.topics),
    ("data", bytes entry.data),
    ("block_number", number entry.block),
    ("log_index", number entry.index),
    ("tx_hash", .str entry.transaction)]

/-- What a ballot proposes, as members of the ballot's object. -/
def proposal : Proposal → List Json.Member
  | .keys keys =>
    [("proposed_value", datum keys.affectedKey),
      ("affected_key_type", .str keys.affectedKeyKind.name),
      ("mining_key", datum keys.miningKey),
      ("new_voting_key", optional datum keys.newVotingKey?),
      ("new_payout_key", optional datum keys.newPayoutKey?)]
  | .threshold value => [("proposed_value", datum value)]
  | .proxy address target =>
    [("proposed_value", datum address), ("target_contract_type", datum target)]
  | .emission emission =>
    [("proposed_value", .obj [
      ("creation_time", instant emission.created),
      ("amount", datum emission.amount),
      ("receiver", datum emission.receiver),
      ("burn_votes", datum emission.burnVotes),
      ("freeze_votes", datum emission.freezeVotes),
      ("send_votes", datum emission.sendVotes)])]

/-- What every ballot has, as members of the ballot's object. -/
def commonMembers (ballot : Ballot) : List Json.Member :=
  [("ballot_id", datum ballot.id),
    ("ballot_type", .str ballot.kind.name),
    ("start_time", instant ballot.starts),
    ("end_time", instant ballot.ends),
    ("creator", datum ballot.creator),
    ("memo", datum ballot.memo),
    ("contract_type", .str ballot.contract.name)]

/-- A ballot. -/
def ballot (ballot : Ballot) : Json :=
  .obj (commonMembers ballot ++ proposal ballot.proposal)

/-- A notification. -/
def notification (notification : Notification) : Json :=
  .obj [
    ("event", ballot notification.ballot),
    ("network", .str notification.network.name),
    ("endpoint", .str notification.endpoint),
    ("block_number", number notification.block),
    ("log_index", number notification.index),
    ("version", .str notification.version.name),
    ("contract_type", .str notification.contract.name),
    ("generated_at", instant notification.generated)]

end BallotWatch.Report
