/-
This file proves that decoding undoes encoding. The encoding of what a reading says of a layout's
fields, with anything after it, has that reading, whatever the fields are, and the values read from
it are those encoded. For the known layouts this means that an entry with such data, under the topic
in whatever case, is the ballot that the reading tells.
-/

import BallotWatch.Proofs.Abi.Encoding
import BallotWatch.Proofs.Ballot.Acceptance

namespace BallotWatch

open Abi

namespace Reading

/-! ### The encoding of a reading -/

/-- The argument that a reading gives for a field. -/
def argument (reading : Reading) (field : Field) : Argument :=
  match field.type with
  | .uint256 => .number (reading.number field.name)
  | .address => .address (reading.address field.name)
  | .text => .text (reading.text field.name)

/-- The encoding of what a reading says of a layout's fields. -/
def encode (reading : Reading) (layout : Layout) : List UInt8 :=
  Argument.encode (layout.fields.map reading.argument)

/-- A reading that can be encoded: its numbers and its addresses fit into a word, and so does the
size of the encoding. -/
structure IsEncodable (reading : Reading) (layout : Layout) : Prop where
  numbers : ∀ name, layout.Has name .uint256 → reading.number name < 2 ^ 256
  addresses : ∀ name, layout.Has name .address → (reading.address name).length = 20
  size : (reading.encode layout).length < 2 ^ 256

theorem IsEncodable.fits {reading : Reading} {layout : Layout}
    (encodable : reading.IsEncodable layout) {field : Field} (member : field ∈ layout.fields) :
    (reading.argument field).Fits := by
  obtain ⟨name, type⟩ := field
  cases type with
  | uint256 => exact encodable.numbers name member
  | address => exact encodable.addresses name member
  | text => trivial

/-- A field whose head stands in its word, and whose tail at the offset, is read back. -/
theorem fits_of_startsAt {reading : Reading} {data : List UInt8} {index offset : Nat}
    {field : Field} (fits : (reading.argument field).Fits)
    (size : offset + (reading.argument field).tail.length < 2 ^ 256)
    (head : StartsAt ((reading.argument field).head offset) data (32 * index))
    (tail : StartsAt (reading.argument field).tail data offset) :
    reading.Fits data index field := by
  obtain ⟨name, type⟩ := field
  cases type with
  | uint256 => exact numberAt_of_startsAt fits head
  | address => exact address_of_startsAt fits head
  | text => exact payloadAt_of_startsAt size head tail

/-- The induction is on the fields. What is left of the heads starts at the next word, and what is
left of the tails at the offset reached. -/
theorem fitsFrom_of_startsAt {reading : Reading} {data : List UInt8} {fields : List Field}
    {index offset : Nat} (fit : ∀ field ∈ fields, (reading.argument field).Fits)
    (size : offset + (Argument.tails (fields.map reading.argument)).length < 2 ^ 256)
    (heads : StartsAt (Argument.heads offset (fields.map reading.argument)) data (32 * index))
    (tails : StartsAt (Argument.tails (fields.map reading.argument)) data offset) :
    reading.FitsFrom data index fields := by
  induction fields generalizing index offset with
  | nil =>
    intro place field found
    cases found
  | cons field rest inductionHypothesis =>
    rw [List.map_cons, Argument.tails, List.flatMap_cons, ← Argument.tails] at size tails
    rw [List.map_cons, Argument.heads] at heads
    rw [List.length_append] at size
    have fitsWord := fit field List.mem_cons_self
    have laterHeads := heads.right
    rw [Argument.length_head fitsWord offset, ← Nat.mul_succ] at laterHeads
    rw [fitsFrom_cons]
    refine ⟨fits_of_startsAt fitsWord (by omega) heads.left tails.left, ?_⟩
    refine inductionHypothesis (fun later member => fit later (List.mem_cons_of_mem field member))
      ?_ laterHeads tails.right
    omega

/-- Encoded data, whatever follows, has the reading it was made of. -/
theorem of_encode {reading : Reading} {layout : Layout} (encodable : reading.IsEncodable layout)
    (trailing : List UInt8) : reading.Of layout (reading.encode layout ++ trailing) := by
  have fit : ∀ argument ∈ layout.fields.map reading.argument, argument.Fits := by
    intro argument member
    obtain ⟨field, inFields, rfl⟩ := List.mem_map.mp member
    exact encodable.fits inFields
  have headSize := Argument.length_heads fit (32 * (layout.fields.map reading.argument).length)
  have size := encodable.size
  rw [encode, Argument.encode, List.length_append, headSize] at size
  have whole : StartsAt (reading.encode layout) (reading.encode layout ++ trailing) 0 :=
    List.prefix_append (reading.encode layout) trailing
  have tails := whole.right
  rw [headSize, Nat.zero_add] at tails
  refine ⟨?_, fitsFrom_of_startsAt (fun field => encodable.fits) size whole.left tails⟩
  rw [encode, Argument.encode, List.length_append, List.length_append, headSize, List.length_map,
    Layout.headWords]
  omega

/-- A value is what was encoded for a field. An address is its bytes in hexadecimal digits, some of
them capitals. -/
def Encoded (reading : Reading) (field : Field) (value : AbiValue) : Prop :=
  match field.type with
  | .uint256 => value = .number (reading.number field.name)
  | .address =>
    ∃ shown, value = .address shown ∧
      Text.Recased shown (Bytes.toMarkedHex (reading.address field.name))
  | .text => value = .text (reading.text field.name)

/-- A reading says values that encode it. -/
theorem encoded_value (reading : Reading) (field : Field) :
    reading.Encoded field (reading.value field) := by
  obtain ⟨name, type⟩ := field
  cases type with
  | uint256 => rfl
  | address => exact ⟨_, rfl, Address.recased_written (reading.address name)⟩
  | text => rfl

end Reading

/-! ### Fields -/

/-- The fields of any layout are read back from their encoding, whatever follows it: there is one
value for each declared name, in order, and it is the one that was encoded. -/
theorem Layout.values_encode {kind : ContractKind} {version : Version} {signature topic : String}
    {declared : List FieldDeclaration} {layout : Layout}
    (made : Layout.make kind version signature topic declared = .ok layout) {reading : Reading}
    (encodable : reading.IsEncodable layout) (trailing : List UInt8) :
    ∃ values, layout.values (reading.encode layout ++ trailing) = .ok values ∧
      values.map Prod.fst = declared.map FieldDeclaration.name ∧ (values.map Prod.fst).Nodup ∧
      ∀ field ∈ layout.fields, ∃ value, values.find? field.name = some value ∧
        reading.Encoded field value := by
  have names : (reading.values layout.fields).map Prod.fst = layout.fields.map Field.name := by
    rw [Reading.values, List.map_map]
    rfl
  refine ⟨_, values_of_reading (Reading.of_encode encodable trailing), ?_, ?_, ?_⟩
  · rw [names, map_name_of_make made]
  · rw [names]
    exact layout.distinct
  · intro field member
    exact ⟨_, reading.find?_values layout.distinct member, reading.encoded_value field⟩

/-- Two texts around an address are read back. Their tails follow each other, and a byte follows
both. -/
theorem Layout.values_encode_texts :
    let declared : List FieldDeclaration :=
      [⟨"motto", 0, "string"⟩, ⟨"owner", 1, "address"⟩, ⟨"note", 2, "string"⟩]
    let reading : Reading :=
      { number := fun _ => 0
        address := fun _ => List.replicate 20 0xab
        text := fun name => if name = "motto" then "né" else "" }
    ∃ layout, Layout.make .threshold .v2 "" "" declared = .ok layout ∧
      ∃ values, layout.values (reading.encode layout ++ [1]) = .ok values ∧
        values.find? "motto" = some (.text "né") ∧ values.find? "note" = some (.text "") := by
  intro declared reading
  let layout : Layout :=
    { kind := .threshold, version := .v2, signature := "", topic := ""
      fields := [⟨"motto", .text⟩, ⟨"owner", .address⟩, ⟨"note", .text⟩]
      distinct := by decide }
  have made : Layout.make .threshold .v2 "" "" declared = .ok layout := by rfl
  have encodable : reading.IsEncodable layout := by
    constructor
    case numbers => exact fun name _ => (by norm_num : (0 : Nat) < 2 ^ 256)
    case addresses => exact fun name _ => List.length_replicate
    case size => decide +kernel
  obtain ⟨values, found, -, -, each⟩ := values_encode made encodable [1]
  obtain ⟨motto, first, mottoEncoded⟩ := each ⟨"motto", .text⟩ (by decide)
  obtain ⟨note, last, noteEncoded⟩ := each ⟨"note", .text⟩ (by decide)
  obtain rfl : motto = .text "né" := mottoEncoded
  obtain rfl : note = .text "" := noteEncoded
  exact ⟨layout, made, values, found, first, last⟩

/-! ### Entries -/

theorem Reading.Tells.contract {reading : Reading} {layout : Layout} {ballot : Ballot}
    (tells : reading.Tells layout ballot) : ballot.contract = layout.kind := by
  have told := tells.proposal
  unfold Reading.TellsProposal at told
  unfold Ballot.contract
  cases contract : layout.kind with
  | keys =>
    rw [contract] at told
    obtain ⟨keyKind, -, same⟩ := told
    rw [same]
    rfl
  | threshold =>
    rw [contract] at told
    have same : ballot.proposal = .threshold (reading.amount "proposedValue") := told
    rw [same]
    rfl
  | proxy =>
    rw [contract] at told
    have same : ballot.proposal =
        .proxy (reading.account "proposedValue") (reading.amount "contractType") := told
    rw [same]
    rfl
  | emission =>
    rw [contract] at told
    obtain ⟨created, -, same⟩ := told
    rw [same]
    rfl

/-- An entry with encoded data is the ballot that was encoded. Its addresses are the encoded bytes
in hexadecimal digits, some of them capitals. -/
theorem Layout.decode_encode {layout : Layout} (known : layout ∈ Registry.standard)
    {reading : Reading} (encodable : reading.IsEncodable layout)
    (inRange : reading.InRange layout) {entry : LogEntry} {topic : String}
    (first : entry.topics.head? = some topic) (recased : Text.Recased topic layout.topic)
    {trailing : List UInt8} (data : entry.data = reading.encode layout ++ trailing) :
    ∃ ballot, layout.decode entry = .ok ballot ∧ ballot.contract = layout.kind ∧
      reading.Tells layout ballot ∧
      ∀ name, Text.Recased (Address.written (reading.address name))
        (Bytes.toMarkedHex (reading.address name)) := by
  have topicMatches : layout.HasTopic entry :=
    ⟨topic, first, Registry.lowercase_topic known recased⟩
  have isOf := Reading.of_encode encodable trailing
  rw [← data] at isOf
  obtain ⟨ballot, decoded, tells⟩ :=
    decode_of_reading (isBallot_of_mem_standard known) topicMatches isOf inRange
  exact ⟨ballot, decoded, tells.contract, tells, fun name =>
    Address.recased_written (reading.address name)⟩

/-- A swap of keys with one byte after its encoding is read back. -/
theorem Layout.decode_encode_keys :
    let layout := Registry.eventLayout .keys .v2
    let reading : Reading :=
      { number := fun name => if name = "endTime" then 2 else 1
        address := fun _ => List.replicate 20 0xab
        text := fun _ => "swap" }
    let entry : LogEntry := ⟨"", [layout.topic], reading.encode layout ++ [1], 5, 0, ""⟩
    ∃ ballot, layout.decode entry = .ok ballot ∧ ballot.ends.seconds = 2 ∧
      ballot.memo = .text "swap" := by
  intro layout reading entry
  have known : layout ∈ Registry.standard :=
    Registry.mem_standard.mpr ⟨.keys, .v2, by decide, rfl⟩
  have small : ∀ name, reading.number name ≤ 2 := by
    intro name
    show (if name = "endTime" then 2 else 1) ≤ 2
    split
    · exact Nat.le_refl 2
    · exact Nat.le_succ 1
  have encodable : reading.IsEncodable layout := by
    constructor
    case numbers => exact fun name _ => Nat.lt_of_le_of_lt (small name) (by norm_num)
    case addresses => exact fun name _ => List.length_replicate
    case size => decide +kernel
  have inRange : reading.InRange layout := by
    constructor
    case times => exact fun name _ _ => Nat.le_trans (small name) (by norm_num)
    case ballotType => exact fun _ => by decide
    case affectedKeyType => exact fun _ => by decide
  obtain ⟨ballot, decoded, -, tells, -⟩ :=
    @decode_encode layout known reading encodable inRange entry layout.topic rfl
      (Text.Recased.refl layout.topic) [1] rfl
  exact ⟨ballot, decoded, tells.ends, tells.memo⟩

end BallotWatch
