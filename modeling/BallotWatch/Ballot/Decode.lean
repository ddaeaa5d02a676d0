/-
This file turns log entries into ballots.

An entry belongs to a layout when its first topic, in whatever case, is the layout's. Its
fields are read from the data in order, and the ballot is made of the fields by their names.
The ballot takes each value as the layout has it; only a point in time must be a number, and a
kind of ballot or key must be one of those there are. A layout without a word for the kind of
ballot implies one by its contract, except the contract for keys, whose ballots are of several
kinds.
-/

import BallotWatch.Ballot.Event
import BallotWatch.Ballot.Registry
import BallotWatch.Chain.LogEntry
import BallotWatch.Text.Lowercase

namespace BallotWatch

open Abi

/-! ### What can be wrong with an entry -/

/-- Why an entry is no ballot. -/
inductive DecodeFault
  | topicMismatch (block index : Int) (found? : Option String) (kind : ContractKind)
      (version : Version) (expected : String)
  | tooShort (size : Nat) (signature : String) (needed : Nat)
  | unreadable (fault : AbiFault)
  | noSuchBallotKind (value : Datum)
  | noSuchKeyKind (value : Datum)
  | missingField (name : String)
  | noImpliedKind (kind : ContractKind)
  | timeAsText
  deriving DecidableEq, Repr

namespace DecodeFault

/-- The fault in words. -/
def message : DecodeFault → String
  | topicMismatch block index found? kind version expected =>
    let found := found?.getD "None"
    s!"log {block}:{index} topic0 {found} does not match " ++
      s!"{kind.name}/{version.name} signature {expected}"
  | tooShort size signature needed =>
    s!"data holds {size} bytes, {signature} needs at least {needed}"
  | unreadable fault => fault.message
  | noSuchBallotKind value => s!"ballotType={value.written} is not a valid BallotType"
  | noSuchKeyKind value => s!"affectedKeyType={value.written} is not a valid KeyType"
  | missingField name => Text.quoted name
  | noImpliedKind kind => s!"<ContractType.{kind.label}: {Text.quoted kind.name}>"
  | timeAsText => "'str' object cannot be interpreted as an integer"

/-- The kind of fault. What a layout lacks is not the entry's fault. -/
def kind : DecodeFault → FaultKind
  | topicMismatch .. => .signatureMismatch
  | tooShort .. | noSuchBallotKind _ | noSuchKeyKind _ => .malformed
  | unreadable fault => fault.toFault.kind
  | missingField _ | noImpliedKind _ => .key
  | timeAsText => .type

/-- The name of the fault in records. -/
def label (fault : DecodeFault) : String :=
  if fault.kind = .signatureMismatch then "SignatureMismatch" else "Malformed"

/-- The numbers in the words of a fault that may have any number of digits: the place of an
entry. -/
def numbers : DecodeFault → List Int
  | topicMismatch block index .. => [block, index]
  | _ => []

/-- The fault as it is passed on. -/
def toFault (fault : DecodeFault) : Fault :=
  .telling fault.numbers fault.kind fault.message

/-- Whether the entry is to blame, so that a scan leaves it out and goes on. -/
def isOfEntry (fault : DecodeFault) : Bool :=
  fault.toFault.kind.isA .decode

end DecodeFault

/-! ### The fields of an entry -/

/-- A field's value as a ballot takes it. -/
def Abi.AbiValue.datum : AbiValue → Datum
  | number value => .number value
  | address content | text content => .text content

/-- The values of an entry's fields, by name. -/
abbrev FieldValues := List (String × AbiValue)

/-- Reads fields from an index on. -/
def readFields (data : List UInt8) (index : Nat) :
    List Field → Except DecodeFault FieldValues
  | [] => .ok []
  | field :: rest =>
    match read data index field.type with
    | .error fault => .error (.unreadable fault)
    | .ok value => (readFields data (index + 1) rest).map ((field.name, value) :: ·)

/-- The values of all fields of a layout. Data with fewer words than fields is refused at
once. -/
def Layout.values (layout : Layout) (data : List UInt8) : Except DecodeFault FieldValues :=
  let needed := wordSize * layout.headWords
  if data.length < needed then .error (.tooShort data.length layout.signature needed)
  else readFields data 0 layout.fields

namespace FieldValues

/-- The value of a field, if there is the field. -/
def find? (values : FieldValues) (name : String) : Option AbiValue :=
  List.lookup name values

/-- The value of a field that must be there. -/
def get (values : FieldValues) (name : String) : Except DecodeFault AbiValue :=
  match values.find? name with
  | some value => .ok value
  | none => .error (.missingField name)

/-- A value that must be there, as the ballot takes it. -/
def datum (values : FieldValues) (name : String) : Except DecodeFault Datum :=
  (values.get name).map AbiValue.datum

/-- A value that need not be there. -/
def datum? (values : FieldValues) (name : String) : Option Datum :=
  (values.find? name).map AbiValue.datum

/-- A point in time. -/
def time (values : FieldValues) (name : String) : Except DecodeFault Instant :=
  match values.datum name with
  | .error fault => .error fault
  | .ok (.number seconds) => (Abi.time seconds).mapError .unreadable
  | .ok (.text _) => .error .timeAsText

/-- The kind of ballot: that of its field, or the one implied by the contract. -/
def ballotKind (values : FieldValues) (contract : ContractKind) :
    Except DecodeFault BallotKind :=
  match values.datum? "ballotType" with
  | some value =>
    match BallotKind.ofDatum? value with
    | some kind => .ok kind
    | none => .error (.noSuchBallotKind value)
  | none =>
    match contract with
    | .keys => .error (.noImpliedKind contract)
    | .threshold => .ok .threshold
    | .proxy => .ok .proxy
    | .emission => .ok .emission

/-- The kind of the affected key. -/
def keyKind (values : FieldValues) : Except DecodeFault KeyKind :=
  match values.datum "affectedKeyType" with
  | .error fault => .error fault
  | .ok value =>
    match KeyKind.ofDatum? value with
    | some kind => .ok kind
    | none => .error (.noSuchKeyKind value)

/-! ### Ballots of fields -/

/-- What the ballot of a contract proposes. -/
def proposal (values : FieldValues) : ContractKind → Except DecodeFault Proposal
  | .keys => do
    let affectedKey ← values.datum "affectedKey"
    let affectedKeyKind ← values.keyKind
    let miningKey ← values.datum "miningKey"
    let newVotingKey? := values.datum? "newVotingKey"
    let newPayoutKey? := values.datum? "newPayoutKey"
    return .keys { affectedKey, affectedKeyKind, miningKey, newVotingKey?, newPayoutKey? }
  | .threshold => do
    let value ← values.datum "proposedValue"
    return .threshold value
  | .proxy => do
    let address ← values.datum "proposedValue"
    let target ← values.datum "contractType"
    return .proxy address target
  | .emission => do
    let created ← values.time "creationTime"
    let amount ← values.datum "amount"
    let receiver ← values.datum "receiver"
    let burnVotes ← values.datum "burnVotes"
    let freezeVotes ← values.datum "freezeVotes"
    let sendVotes ← values.datum "sendVotes"
    return .emission { created, amount, receiver, burnVotes, freezeVotes, sendVotes }

/-- The ballot of a contract that some fields describe. -/
def ballot (values : FieldValues) (contract : ContractKind) : Except DecodeFault Ballot := do
  let kind ← values.ballotKind contract
  let id ← values.datum "id"
  let starts ← values.time "startTime"
  let ends ← values.time "endTime"
  let creator ← values.datum "creator"
  let memo ← values.datum "memo"
  let proposal ← values.proposal contract
  return { id, kind, starts, ends, creator, memo, proposal }

end FieldValues

/-! ### Whole entries -/

/-- Whether the first topic of an entry is that of a layout. -/
def Layout.matchesTopic (layout : Layout) (entry : LogEntry) : Bool :=
  match entry.topics with
  | [] => false
  | topic :: _ => Text.lowercase topic == layout.topic

/-- The ballot of an entry. -/
def Layout.decode (layout : Layout) (entry : LogEntry) : Except DecodeFault Ballot :=
  if layout.matchesTopic entry then
    match layout.values entry.data with
    | .error fault => .error fault
    | .ok values => values.ballot layout.kind
  else
    .error (.topicMismatch entry.block entry.index entry.topics.head? layout.kind layout.version
      layout.topic)

end BallotWatch
