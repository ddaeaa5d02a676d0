/-
This file says which ballot a reading tells, and proves that the values of the reading make that
ballot. They do so when the numbers that stand for points in time, kinds of ballots and kinds of
keys are not too great. Otherwise the entry is malformed.

The proof is about any layout with the fields of a ballot, and so does not depend on the order of
the fields of an event.
-/

import BallotWatch.Proofs.Ballot.Reading
import BallotWatch.Proofs.Ballot.Registry

namespace BallotWatch

open Abi

/-! ### Decided outcomes -/

/-- An outcome that a condition decides: if it holds there is a value with a property, and if not
the entry is malformed. -/
structure Decides {Value : Type} (outcome : Except DecodeFault Value) (condition : Prop)
    (property : Value → Prop) : Prop where
  accepted : condition → ∃ value, outcome = .ok value ∧ property value
  refused : ¬condition → ∃ fault, outcome = .error fault ∧ fault.kind = .malformed

namespace Decides

variable {Value Next : Type} {outcome : Except DecodeFault Value} {condition : Prop}
  {property : Value → Prop}

theorem pure {value : Value} (told : property value) : Decides (.ok value) True property :=
  ⟨fun _ => ⟨value, rfl, told⟩, fun fails => absurd trivial fails⟩

/-- A step whose value is known takes nothing from the condition. -/
theorem after {value : Value} (same : outcome = .ok value)
    {next : Value → Except DecodeFault Next} {nextCondition : Prop} {nextProperty : Next → Prop}
    (later : Decides (next value) nextCondition nextProperty) :
    Decides (outcome >>= next) nextCondition nextProperty := by
  rw [same]
  exact later

/-- Steps one after another are decided by the conditions of both. -/
theorem bind (first : Decides outcome condition property) {next : Value → Except DecodeFault Next}
    {laterCondition : Prop} {laterProperty : Next → Prop}
    (later : ∀ value, property value → Decides (next value) laterCondition laterProperty) :
    Decides (outcome >>= next) (condition ∧ laterCondition) laterProperty := by
  constructor
  · rintro ⟨holds, laterHolds⟩
    obtain ⟨value, same, told⟩ := first.accepted holds
    rw [same]
    exact (later value told).accepted laterHolds
  · intro fails
    by_cases holds : condition
    · obtain ⟨value, same, told⟩ := first.accepted holds
      rw [same]
      exact (later value told).refused fun laterHolds => fails ⟨holds, laterHolds⟩
    · obtain ⟨fault, same, kind⟩ := first.refused holds
      rw [same]
      exact ⟨fault, rfl, kind⟩

theorem congr (condition : Prop) {other : Prop} (same : other ↔ condition)
    (decides : Decides outcome condition property) : Decides outcome other property :=
  ⟨fun holds => decides.accepted (same.mp holds),
    fun fails => decides.refused fun holds => fails (same.mpr holds)⟩

end Decides

/-! ### The fields of a ballot -/

namespace Layout

/-- A layout has a field of a name and a type. -/
def Has (layout : Layout) (name : String) (type : AbiType) : Prop :=
  ⟨name, type⟩ ∈ layout.fields

instance (layout : Layout) (name : String) (type : AbiType) : Decidable (layout.Has name type) :=
  inferInstanceAs (Decidable (_ ∈ _))

/-- A layout has no field of a name. -/
def Lacks (layout : Layout) (name : String) : Prop :=
  name ∉ layout.fields.map Field.name

instance (layout : Layout) (name : String) : Decidable (layout.Lacks name) :=
  inferInstanceAs (Decidable (_ ∉ _))

/-- The fields of what the ballots of a contract propose, without the new keys. -/
def proposalFields : ContractKind → List Field
  | .keys =>
    [⟨"affectedKey", .address⟩, ⟨"affectedKeyType", .uint256⟩, ⟨"miningKey", .address⟩]
  | .threshold => [⟨"proposedValue", .uint256⟩]
  | .proxy => [⟨"proposedValue", .address⟩, ⟨"contractType", .uint256⟩]
  | .emission =>
    [⟨"creationTime", .uint256⟩, ⟨"amount", .uint256⟩, ⟨"receiver", .address⟩,
      ⟨"burnVotes", .uint256⟩, ⟨"freezeVotes", .uint256⟩, ⟨"sendVotes", .uint256⟩]

/-- A layout has the fields of a ballot. The number of the kind of ballot may be missing, but not
where the contract has ballots of several kinds, and only the second generation has new keys. -/
structure IsBallot (layout : Layout) : Prop where
  id : layout.Has "id" .uint256
  starts : layout.Has "startTime" .uint256
  ends : layout.Has "endTime" .uint256
  creator : layout.Has "creator" .address
  memo : layout.Has "memo" .text
  kind : layout.Has "ballotType" .uint256 ∨ layout.Lacks "ballotType" ∧ layout.kind ≠ .keys
  proposal : ∀ field ∈ proposalFields layout.kind, layout.Has field.name field.type
  newKeys : layout.kind = .keys → ∀ name ∈ ["newVotingKey", "newPayoutKey"],
    if layout.version = .v2 then layout.Has name .address else layout.Lacks name
  onlyMemo : ∀ field ∈ layout.fields, field.type = .text → field.name = "memo"
  onlyKeys : layout.Has "affectedKeyType" .uint256 → layout.kind = .keys
  onlyEmission : layout.Has "creationTime" .uint256 → layout.kind = .emission

/-- Every known layout has the fields of a ballot. This is all that is used of the table. -/
theorem isBallot_of_mem_standard {layout : Layout} (known : layout ∈ Registry.standard) :
    layout.IsBallot := by
  obtain ⟨kind, version, listed, rfl⟩ := Registry.mem_standard.mp known
  cases kind <;> cases version
  case emission.v1 => exact absurd listed (by decide)
  all_goals constructor <;> decide

end Layout

/-! ### The ballot that a reading tells -/

namespace Reading

/-- A number as a ballot takes it. -/
def amount (reading : Reading) (name : String) : Datum :=
  .number (reading.number name)

/-- An address as a ballot takes it. -/
def account (reading : Reading) (name : String) : Datum :=
  .text (Address.written (reading.address name))

/-- A new key, which only ballots of the second generation have. -/
def newKey? (reading : Reading) (version : Version) (name : String) : Option Datum :=
  if version = .v2 then some (reading.account name) else none

/-- The kind that a contract's ballots have without a number for it. -/
def impliedKind? : ContractKind → Option BallotKind
  | .keys => none
  | .threshold => some .threshold
  | .proxy => some .proxy
  | .emission => some .emission

/-- The kind of ballot is the one numbered by its field, or the one of the contract. -/
def TellsKind (reading : Reading) (layout : Layout) (kind : BallotKind) : Prop :=
  if layout.Has "ballotType" .uint256 then
    BallotKind.all[reading.number "ballotType"]? = some kind
  else impliedKind? layout.kind = some kind

/-- What is proposed is what the fields of the contract's ballots say. -/
def TellsProposal (reading : Reading) (layout : Layout) (proposal : Proposal) : Prop :=
  match layout.kind with
  | .keys =>
    ∃ keyKind, KeyKind.all[reading.number "affectedKeyType"]? = some keyKind ∧
      proposal = .keys
        { affectedKey := reading.account "affectedKey"
          affectedKeyKind := keyKind
          miningKey := reading.account "miningKey"
          newVotingKey? := reading.newKey? layout.version "newVotingKey"
          newPayoutKey? := reading.newKey? layout.version "newPayoutKey" }
  | .threshold => proposal = .threshold (reading.amount "proposedValue")
  | .proxy => proposal = .proxy (reading.account "proposedValue") (reading.amount "contractType")
  | .emission =>
    ∃ created : Instant, created.seconds = reading.number "creationTime" ∧
      proposal = .emission
        { created
          amount := reading.amount "amount"
          receiver := reading.account "receiver"
          burnVotes := reading.amount "burnVotes"
          freezeVotes := reading.amount "freezeVotes"
          sendVotes := reading.amount "sendVotes" }

/-- Every part of a ballot is what a reading says of it. -/
structure Tells (reading : Reading) (layout : Layout) (ballot : Ballot) : Prop where
  id : ballot.id = reading.amount "id"
  kind : reading.TellsKind layout ballot.kind
  starts : ballot.starts.seconds = reading.number "startTime"
  ends : ballot.ends.seconds = reading.number "endTime"
  creator : ballot.creator = reading.account "creator"
  memo : ballot.memo = .text (reading.text "memo")
  proposal : reading.TellsProposal layout ballot.proposal

/-- The numbers of points in time reach no further than the calendar, and those of kinds number
kinds there are. -/
structure InRange (reading : Reading) (layout : Layout) : Prop where
  times : ∀ name ∈ ["startTime", "endTime", "creationTime"], layout.Has name .uint256 →
    reading.number name ≤ 253402300799
  ballotType : layout.Has "ballotType" .uint256 → reading.number "ballotType" ≤ 6
  affectedKeyType : layout.Has "affectedKeyType" .uint256 → reading.number "affectedKeyType" ≤ 3

/-! ### Looking values up -/

/-- The value of a field is found under its name, since no other field has it. -/
theorem find?_values (reading : Reading) {fields : List Field} {field : Field}
    (distinct : (fields.map Field.name).Nodup) (member : field ∈ fields) :
    (reading.values fields).find? field.name = some (reading.value field) := by
  induction fields with
  | nil => cases member
  | cons first rest inductionHypothesis =>
    obtain ⟨fresh, distinctRest⟩ := List.nodup_cons.mp distinct
    unfold values FieldValues.find?
    rw [List.map_cons, List.lookup_cons]
    rcases List.mem_cons.mp member with rfl | later
    · rw [beq_self_eq_true]
    · have differs : (field.name == first.name) = false := by
        rw [beq_eq_false_iff_ne]
        intro same
        exact fresh (List.mem_map.mpr ⟨field, later, same⟩)
      rw [differs]
      exact inductionHypothesis distinctRest later

theorem find?_values_of_not_mem {reading : Reading} {fields : List Field} {name : String}
    (absent : name ∉ fields.map Field.name) : (reading.values fields).find? name = none := by
  rw [FieldValues.find?, List.lookup_eq_none_iff]
  intro entry member
  obtain ⟨field, inFields, rfl⟩ := List.mem_map.mp member
  rw [bne_iff_ne]
  rintro rfl
  exact absent (List.mem_map.mpr ⟨field, inFields, rfl⟩)

section Values

variable {layout : Layout} {name : String} (reading : Reading)

theorem datum_number (has : layout.Has name .uint256) :
    (reading.values layout.fields).datum name = .ok (reading.amount name) := by
  have found := reading.find?_values layout.distinct has
  simp only [FieldValues.datum, FieldValues.get, found]
  rfl

theorem datum_address (has : layout.Has name .address) :
    (reading.values layout.fields).datum name = .ok (reading.account name) := by
  have found := reading.find?_values layout.distinct has
  simp only [FieldValues.datum, FieldValues.get, found]
  rfl

theorem datum_text (has : layout.Has name .text) :
    (reading.values layout.fields).datum name = .ok (.text (reading.text name)) := by
  have found := reading.find?_values layout.distinct has
  simp only [FieldValues.datum, FieldValues.get, found]
  rfl

theorem datum?_number (has : layout.Has name .uint256) :
    (reading.values layout.fields).datum? name = some (reading.amount name) := by
  rw [FieldValues.datum?, reading.find?_values layout.distinct has]
  rfl

theorem datum?_of_lacks (lacks : layout.Lacks name) :
    (reading.values layout.fields).datum? name = none := by
  rw [FieldValues.datum?, find?_values_of_not_mem lacks]
  rfl

theorem datum?_newKey
    (has : if layout.version = .v2 then layout.Has name .address else layout.Lacks name) :
    (reading.values layout.fields).datum? name = reading.newKey? layout.version name := by
  rw [newKey?]
  by_cases second : layout.version = .v2
  · rw [if_pos second] at has ⊢
    rw [FieldValues.datum?, reading.find?_values layout.distinct has]
    rfl
  · rw [if_neg second] at has ⊢
    exact reading.datum?_of_lacks has

/-! ### Numbers that must not be too great -/

/-- A number is a point in time up to the end of the year 9999. -/
theorem time_decides (has : layout.Has name .uint256) :
    Decides ((reading.values layout.fields).time name) (reading.number name ≤ 253402300799)
      fun instant => instant.seconds = reading.number name := by
  rw [FieldValues.time, reading.datum_number has]
  simp only [amount, Abi.time, Instant.ofSeconds?]
  constructor
  · intro inTime
    have inCalendar : -62135596800 ≤ (reading.number name : Int) ∧
        (reading.number name : Int) ≤ 253402300799 := by
      omega
    rw [dif_pos inCalendar]
    exact ⟨_, rfl, rfl⟩
  · intro tooLate
    have outside : ¬(-62135596800 ≤ (reading.number name : Int) ∧
        (reading.number name : Int) ≤ 253402300799) := by
      omega
    rw [dif_neg outside]
    exact ⟨_, rfl, rfl⟩

/-- A number is a kind of key if it is among the four, in their order. -/
theorem keyKind_decides (has : layout.Has "affectedKeyType" .uint256) :
    Decides (reading.values layout.fields).keyKind (reading.number "affectedKeyType" ≤ 3)
      fun kind => KeyKind.all[reading.number "affectedKeyType"]? = some kind := by
  rw [FieldValues.keyKind, reading.datum_number has]
  have natural : ¬(reading.number "affectedKeyType" : Int) < 0 := by omega
  simp only [amount, KeyKind.ofDatum?, if_neg natural, Int.toNat_natCast, KeyKind.ofNumber?]
  constructor
  · intro inList
    have present : reading.number "affectedKeyType" < KeyKind.all.length := Nat.lt_succ_of_le inList
    rw [List.getElem?_eq_getElem present]
    exact ⟨_, rfl, rfl⟩
  · intro tooGreat
    have absent : KeyKind.all.length ≤ reading.number "affectedKeyType" := Nat.not_le.mp tooGreat
    rw [List.getElem?_eq_none absent]
    exact ⟨_, rfl, rfl⟩

/-- The kind of a ballot comes from the field that tells it, if the layout has one, and otherwise
from the contract. -/
theorem ballotKind_decides (shape : layout.IsBallot) :
    Decides ((reading.values layout.fields).ballotKind layout.kind)
      (layout.Has "ballotType" .uint256 → reading.number "ballotType" ≤ 6)
      (reading.TellsKind layout) := by
  unfold FieldValues.ballotKind TellsKind
  rcases shape.kind with has | ⟨lacks, notKeys⟩
  · have natural : ¬(reading.number "ballotType" : Int) < 0 := by omega
    rw [reading.datum?_number has]
    simp only [amount, BallotKind.ofDatum?, if_neg natural, Int.toNat_natCast,
      BallotKind.ofNumber?, if_pos has]
    constructor
    · intro inList
      have present : reading.number "ballotType" < BallotKind.all.length :=
        Nat.lt_succ_of_le (inList has)
      rw [List.getElem?_eq_getElem present]
      exact ⟨_, rfl, rfl⟩
    · intro tooGreat
      have absent : BallotKind.all.length ≤ reading.number "ballotType" :=
        Nat.not_le.mp fun inList => tooGreat fun _ => inList
      rw [List.getElem?_eq_none absent]
      exact ⟨_, rfl, rfl⟩
  · have hasNot : ¬layout.Has "ballotType" .uint256 := fun has =>
      lacks (List.mem_map.mpr ⟨_, has, rfl⟩)
    rw [reading.datum?_of_lacks lacks]
    simp only [if_neg hasNot]
    refine Decides.congr True (iff_true_intro fun has => absurd has hasNot) ?_
    cases contract : layout.kind with
    | keys => exact absurd contract notKeys
    | threshold => exact Decides.pure rfl
    | proxy => exact Decides.pure rfl
    | emission => exact Decides.pure rfl

/-! ### Ballots -/

/-- What is proposed is decided by the fields of the contract alone. -/
theorem proposal_decides (shape : layout.IsBallot) :
    Decides ((reading.values layout.fields).proposal layout.kind)
      ((layout.kind = .keys → reading.number "affectedKeyType" ≤ 3) ∧
        (layout.kind = .emission → reading.number "creationTime" ≤ 253402300799))
      (reading.TellsProposal layout) := by
  have proposed := shape.proposal
  unfold TellsProposal
  cases contract : layout.kind with
  | keys =>
    rw [contract] at proposed
    have newKeys := shape.newKeys contract
    have votingKey := reading.datum?_newKey (newKeys "newVotingKey" (by decide))
    have payoutKey := reading.datum?_newKey (newKeys "newPayoutKey" (by decide))
    refine .congr (reading.number "affectedKeyType" ≤ 3 ∧ True) (by simp) ?_
    refine .after (reading.datum_address (proposed ⟨"affectedKey", .address⟩ (by decide))) ?_
    refine .bind (reading.keyKind_decides (proposed ⟨"affectedKeyType", .uint256⟩ (by decide)))
      fun keyKind told => ?_
    refine .after (reading.datum_address (proposed ⟨"miningKey", .address⟩ (by decide))) ?_
    rw [votingKey, payoutKey]
    exact .pure ⟨keyKind, told, rfl⟩
  | threshold =>
    rw [contract] at proposed
    refine .congr True (by simp) ?_
    refine .after (reading.datum_number (proposed ⟨"proposedValue", .uint256⟩ (by decide))) ?_
    exact .pure rfl
  | proxy =>
    rw [contract] at proposed
    refine .congr True (by simp) ?_
    refine .after (reading.datum_address (proposed ⟨"proposedValue", .address⟩ (by decide))) ?_
    refine .after (reading.datum_number (proposed ⟨"contractType", .uint256⟩ (by decide))) ?_
    exact .pure rfl
  | emission =>
    rw [contract] at proposed
    refine .congr (reading.number "creationTime" ≤ 253402300799 ∧ True) (by simp) ?_
    refine .bind (reading.time_decides (proposed ⟨"creationTime", .uint256⟩ (by decide)))
      fun created told => ?_
    refine .after (reading.datum_number (proposed ⟨"amount", .uint256⟩ (by decide))) ?_
    refine .after (reading.datum_address (proposed ⟨"receiver", .address⟩ (by decide))) ?_
    refine .after (reading.datum_number (proposed ⟨"burnVotes", .uint256⟩ (by decide))) ?_
    refine .after (reading.datum_number (proposed ⟨"freezeVotes", .uint256⟩ (by decide))) ?_
    refine .after (reading.datum_number (proposed ⟨"sendVotes", .uint256⟩ (by decide))) ?_
    exact .pure ⟨created, told, rfl⟩

/-- The ranges, one after another as the numbers are looked at. -/
theorem inRange_iff (shape : layout.IsBallot) :
    reading.InRange layout ↔
      (layout.Has "ballotType" .uint256 → reading.number "ballotType" ≤ 6) ∧
        reading.number "startTime" ≤ 253402300799 ∧ reading.number "endTime" ≤ 253402300799 ∧
          ((layout.kind = .keys → reading.number "affectedKeyType" ≤ 3) ∧
            (layout.kind = .emission → reading.number "creationTime" ≤ 253402300799)) ∧ True := by
  have proposed := shape.proposal
  constructor
  · intro inRange
    refine ⟨inRange.ballotType, inRange.times "startTime" (by decide) shape.starts,
      inRange.times "endTime" (by decide) shape.ends, ⟨fun contract => ?_, fun contract => ?_⟩,
      trivial⟩
    · rw [contract] at proposed
      exact inRange.affectedKeyType (proposed ⟨"affectedKeyType", .uint256⟩ (by decide))
    · rw [contract] at proposed
      exact inRange.times "creationTime" (by decide)
        (proposed ⟨"creationTime", .uint256⟩ (by decide))
  · rintro ⟨ballotType, starts, ends, ⟨keys, emission⟩, -⟩
    refine ⟨fun name member has => ?_, ballotType, fun has => keys (shape.onlyKeys has)⟩
    simp only [List.mem_cons, List.not_mem_nil, or_false] at member
    rcases member with rfl | rfl | rfl
    · exact starts
    · exact ends
    · exact emission (shape.onlyEmission has)

/-- The values of a reading make a ballot exactly when its numbers are in range, and the ballot
is the one that the reading tells. -/
theorem ballot_decides (shape : layout.IsBallot) :
    Decides ((reading.values layout.fields).ballot layout.kind) (reading.InRange layout)
      (reading.Tells layout) := by
  refine .congr _ (reading.inRange_iff shape) ?_
  refine .bind (reading.ballotKind_decides shape) fun kind kindTold => ?_
  refine .after (reading.datum_number shape.id) ?_
  refine .bind (reading.time_decides shape.starts) fun starts startsTold => ?_
  refine .bind (reading.time_decides shape.ends) fun ends endsTold => ?_
  refine .after (reading.datum_address shape.creator) ?_
  refine .after (reading.datum_text shape.memo) ?_
  refine .bind (reading.proposal_decides shape) fun proposal proposalTold => ?_
  exact .pure ⟨rfl, kindTold, startsTold, endsTold, rfl, rfl, proposalTold⟩

end Values

end Reading

end BallotWatch
