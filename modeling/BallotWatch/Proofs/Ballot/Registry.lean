/-
This file reads the signatures of the ballot events once and for all. The fields of each event
stand in a table, and the layouts a scan knows are those of the table, one for each pair of
contract and generation, with the topic of the signature that the table spells.

No two of the topics are the same, which their digests show by the first byte. So an entry is a
ballot of one contract at most.
-/

import BallotWatch.Ballot.Registry
import BallotWatch.Proofs.Text.LetterCase

namespace BallotWatch

/-! ### Layouts of typed fields -/

/-- A field as a signature declares it. -/
def Field.parameter (field : Field) : Parameter :=
  ⟨field.name, field.type.name⟩

theorem Abi.AbiType.name_of_ofName? {name : String} {type : AbiType}
    (known : ofName? name = some type) : type.name = name := by
  have same := List.find?_some known
  exact beq_iff_eq.mp same

namespace Layout

theorem checkFields_declarations (signature : String) (fields : List Field) (seen : List String)
    (index : Nat) (distinct : (fields.map Field.name).Nodup)
    (fresh : ∀ field ∈ fields, field.name ∉ seen) :
    checkFields signature seen index (declarations index (fields.map Field.parameter)) =
      .ok ⟨fields, distinct, fresh⟩ := by
  induction fields generalizing seen index with
  | nil => rfl
  | cons field rest inductionHypothesis =>
    have absent : field.name ∉ seen := fresh field List.mem_cons_self
    have distinctRest : (rest.map Field.name).Nodup := (List.nodup_cons.mp distinct).2
    have freshRest : ∀ later ∈ rest, later.name ∉ field.name :: seen := by
      intro later member inSeen
      rcases List.mem_cons.mp inSeen with same | before
      · exact (List.nodup_cons.mp distinct).1 (List.mem_map.mpr ⟨later, member, same⟩)
      · exact fresh later (List.mem_cons_of_mem field member) before
    have checked := inductionHypothesis (field.name :: seen) (index + 1) distinctRest freshRest
    simp only [List.map_cons, declarations, checkFields, Field.parameter,
      Abi.AbiType.ofName?_name, ne_eq, not_true_eq_false, if_false, dif_neg absent]
    rw [checked]

/-- Only declarations of typed fields pass the check, each with the index of its place. -/
theorem eq_declarations_of_checkFields {signature : String} {seen : List String} {index : Nat}
    {declared : List FieldDeclaration} {checked : FreshFields seen}
    (accepted : checkFields signature seen index declared = .ok checked) :
    declared = declarations index (checked.val.map Field.parameter) := by
  induction declared generalizing seen index with
  | nil =>
    cases accepted
    rfl
  | cons first rest inductionHypothesis =>
    rw [checkFields] at accepted
    cases known : Abi.AbiType.ofName? first.type with
    | none =>
      rw [known] at accepted
      cases accepted
    | some type =>
      rw [known] at accepted
      dsimp only at accepted
      by_cases misplaced : first.index ≠ index
      · rw [if_pos misplaced] at accepted
        cases accepted
      rw [if_neg misplaced] at accepted
      by_cases present : first.name ∈ seen
      · rw [dif_pos present] at accepted
        cases accepted
      rw [dif_neg present] at accepted
      cases others : checkFields signature (first.name :: seen) (index + 1) rest with
      | error fault =>
        rw [others] at accepted
        cases accepted
      | ok later =>
        rw [others] at accepted
        cases accepted
        obtain ⟨name, place, typeName⟩ := first
        obtain rfl : place = index := not_not.mp misplaced
        obtain rfl : type.name = typeName := Abi.AbiType.name_of_ofName? known
        rw [inductionHypothesis others]
        rfl

theorem map_name_declarations (index : Nat) (fields : List Field) :
    (declarations index (fields.map Field.parameter)).map FieldDeclaration.name =
      fields.map Field.name := by
  induction fields generalizing index with
  | nil => rfl
  | cons field rest inductionHypothesis =>
    rw [List.map_cons, declarations, List.map_cons, inductionHypothesis, List.map_cons]
    rfl

/-- A layout has the declared names, in order. -/
theorem map_name_of_make {kind : ContractKind} {version : Version} {signature topic : String}
    {declared : List FieldDeclaration} {layout : Layout}
    (made : make kind version signature topic declared = .ok layout) :
    layout.fields.map Field.name = declared.map FieldDeclaration.name := by
  unfold make at made
  cases accepted : checkFields signature [] 0 declared with
  | error fault =>
    rw [accepted] at made
    cases made
  | ok checked =>
    rw [accepted] at made
    cases made
    rw [eq_declarations_of_checkFields accepted, map_name_declarations]

/-- A text that is read as a signature with known types and distinct names makes the layout of its
fields. -/
theorem ofSignature_eq {text name : String} {fields : List Field} (kind : ContractKind)
    (version : Version) (distinct : (fields.map Field.name).Nodup)
    (reads : (Signature.ofText text).toOption = some ⟨name, fields.map Field.parameter⟩) :
    ofSignature kind version text =
      let signature : Signature := ⟨name, fields.map Field.parameter⟩
      .ok ⟨kind, version, signature.canonical, signature.topic, fields, distinct⟩ := by
  unfold ofSignature
  cases outcome : Signature.ofText text with
  | error fault =>
    rw [outcome] at reads
    cases reads
  | ok signature =>
    rw [outcome] at reads
    cases reads
    have checked :=
      checkFields_declarations (Signature.canonical ⟨name, fields.map Field.parameter⟩) fields [] 0
        distinct fun _ _ => List.not_mem_nil
    simp only [make, checked]

end Layout

/-! ### The table of events -/

namespace Registry

open Abi

/-- The fields that every event of the second generation starts with. -/
def commonFields : List Field :=
  [⟨"id", .uint256⟩, ⟨"ballotType", .uint256⟩, ⟨"creator", .address⟩, ⟨"startTime", .uint256⟩,
    ⟨"endTime", .uint256⟩, ⟨"memo", .text⟩]

/-- The fields of an event, in order. -/
def eventFields : ContractKind → Version → List Field
  | .keys, .v1 =>
    [⟨"id", .uint256⟩, ⟨"startTime", .uint256⟩, ⟨"endTime", .uint256⟩, ⟨"affectedKey", .address⟩,
      ⟨"affectedKeyType", .uint256⟩, ⟨"miningKey", .address⟩, ⟨"ballotType", .uint256⟩,
      ⟨"creator", .address⟩, ⟨"memo", .text⟩]
  | .threshold, .v1 =>
    [⟨"id", .uint256⟩, ⟨"startTime", .uint256⟩, ⟨"endTime", .uint256⟩,
      ⟨"proposedValue", .uint256⟩, ⟨"creator", .address⟩, ⟨"memo", .text⟩]
  | .proxy, .v1 =>
    [⟨"id", .uint256⟩, ⟨"startTime", .uint256⟩, ⟨"endTime", .uint256⟩,
      ⟨"proposedValue", .address⟩, ⟨"contractType", .uint256⟩, ⟨"creator", .address⟩,
      ⟨"memo", .text⟩]
  | .emission, .v1 => []
  | .keys, .v2 =>
    commonFields ++
      [⟨"affectedKey", .address⟩, ⟨"affectedKeyType", .uint256⟩, ⟨"newVotingKey", .address⟩,
        ⟨"newPayoutKey", .address⟩, ⟨"miningKey", .address⟩]
  | .threshold, .v2 => commonFields ++ [⟨"proposedValue", .uint256⟩]
  | .proxy, .v2 => commonFields ++ [⟨"proposedValue", .address⟩, ⟨"contractType", .uint256⟩]
  | .emission, .v2 =>
    commonFields ++
      [⟨"creationTime", .uint256⟩, ⟨"amount", .uint256⟩, ⟨"receiver", .address⟩,
        ⟨"burnVotes", .uint256⟩, ⟨"freezeVotes", .uint256⟩, ⟨"sendVotes", .uint256⟩]

theorem distinct_eventFields (kind : ContractKind) (version : Version) :
    ((eventFields kind version).map Field.name).Nodup := by
  cases kind <;> cases version <;> decide

/-- The event of a contract. -/
def event (kind : ContractKind) (version : Version) : Signature :=
  ⟨"BallotCreated", (eventFields kind version).map Field.parameter⟩

/-- The layout of the event of a contract. -/
def eventLayout (kind : ContractKind) (version : Version) : Layout :=
  ⟨kind, version, (event kind version).canonical, (event kind version).topic,
    eventFields kind version, distinct_eventFields kind version⟩

/-- Every signature spells the event of the table. -/
theorem ofText_signature {kind : ContractKind} {version : Version}
    (listed : (kind, version) ∈ pairs) :
    ∃ text, signature? kind version = some text ∧
      (Signature.ofText text).toOption = some (event kind version) := by
  cases kind <;> cases version
  case emission.v1 => exact absurd listed (by decide)
  all_goals exact ⟨_, rfl, by decide +kernel⟩

theorem standardLayout?_eq {kind : ContractKind} {version : Version}
    (listed : (kind, version) ∈ pairs) :
    standardLayout? kind version = some (eventLayout kind version) := by
  obtain ⟨text, present, reads⟩ := ofText_signature listed
  rw [standardLayout?, present, Option.bind_some,
    Layout.ofSignature_eq kind version (distinct_eventFields kind version) reads]
  rfl

theorem standard_eq : standard = pairs.map fun pair => eventLayout pair.1 pair.2 := by
  rw [standard, ofPairs, ← List.filterMap_eq_map]
  refine List.filterMap_congr fun pair listed => ?_
  exact standardLayout?_eq listed

/-- A known layout is that of an event of the table. -/
theorem mem_standard {layout : Layout} :
    layout ∈ standard ↔
      ∃ kind version, (kind, version) ∈ pairs ∧ layout = eventLayout kind version := by
  rw [standard_eq, List.mem_map]
  constructor
  · rintro ⟨⟨kind, version⟩, listed, rfl⟩
    exact ⟨kind, version, listed, rfl⟩
  · rintro ⟨kind, version, listed, rfl⟩
    exact ⟨(kind, version), listed, rfl⟩

/-! ### Topics -/

/-- The topic of a known layout is recognized in whatever case. -/
theorem lowercase_topic {layout : Layout} (known : layout ∈ standard) {text : String}
    (recased : Text.Recased text layout.topic) : Text.lowercase text = layout.topic := by
  obtain ⟨kind, version, -, rfl⟩ := mem_standard.mp known
  exact Text.lowercase_of_recased recased fun _ => Bytes.isSmall_of_mem_toMarkedHex

/-- The first byte of the digest of an event. -/
def digestHead : ContractKind → Version → UInt8
  | .keys, .v1 => 0x81
  | .threshold, .v1 => 0x91
  | .proxy, .v1 => 0xa3
  | .emission, .v1 => 0
  | .keys, .v2 => 0x08
  | .threshold, .v2 => 0xec
  | .proxy, .v2 => 0xbb
  | .emission, .v2 => 0xf0

/-- The first byte of every digest, computed once for each pair. -/
theorem head?_digest {kind : ContractKind} {version : Version}
    (listed : (kind, version) ∈ pairs) :
    (Digest.keccak256 (Text.Utf8.encode (event kind version).canonical)).head? =
      some (digestHead kind version) := by
  cases kind <;> cases version
  case emission.v1 => exact absurd listed (by decide)
  all_goals decide +kernel

/-- Different events have different topics. -/
theorem topic_injective {first second : ContractKind × Version} (one : first ∈ pairs)
    (other : second ∈ pairs)
    (same : (eventLayout first.1 first.2).topic = (eventLayout second.1 second.2).topic) :
    first = second := by
  have heads : digestHead first.1 first.2 = digestHead second.1 second.2 := by
    have digests := congrArg List.head? (Bytes.toMarkedHex_injective same)
    rw [head?_digest one, head?_digest other] at digests
    exact Option.some.inj digests
  have all : ∀ first ∈ pairs, ∀ second ∈ pairs,
      digestHead first.1 first.2 = digestHead second.1 second.2 → first = second := by
    decide
  exact all first one second other heads

end Registry

end BallotWatch
