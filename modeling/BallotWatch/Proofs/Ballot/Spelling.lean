/-
This file reads event signatures that are written with any blanks. A parameter is a type and, behind
some blanks, a name, which may be left out; blanks stand around parameters, around the name of the
event and inside empty parentheses. Whatever the blanks and the names of the parameters, the layout
has the given types in order, and the canonical form and the topic are those of the types alone.
-/

import BallotWatch.Ballot.Decode
import BallotWatch.Proofs.Ballot.Registry
import BallotWatch.Proofs.Ballot.Signature

namespace BallotWatch

open Text

/-! ### What a layout holds -/

/-- The values of fields come in the order of the fields, and each is read at its own word. -/
theorem exists_of_readFields {data : List UInt8} {index : Nat} {fields : List Field}
    {values : FieldValues} (read : readFields data index fields = .ok values) {place : Nat}
    {field : Field} (found : fields[place]? = some field) :
    ∃ value, Abi.read data (index + place) field.type = .ok value ∧
      values[place]? = some (field.name, value) := by
  induction fields generalizing index values place with
  | nil => cases found
  | cons first rest inductionHypothesis =>
    rw [readFields] at read
    cases head : Abi.read data index first.type with
    | error fault =>
      rw [head] at read
      cases read
    | ok value =>
      cases tail : readFields data (index + 1) rest with
      | error fault =>
        rw [head, tail] at read
        cases read
      | ok others =>
        rw [head, tail] at read
        cases read
        cases place with
        | zero =>
          cases found
          exact ⟨value, head, rfl⟩
        | succ place =>
          have later := inductionHypothesis tail found
          rwa [Nat.add_assoc, Nat.add_comm 1] at later

theorem Field.parameter_injective : Function.Injective Field.parameter := by
  rintro ⟨name, type⟩ ⟨otherName, otherType⟩ same
  obtain ⟨sameName, sameTypeName⟩ := Parameter.mk.inj same
  have known : Abi.AbiType.ofName? type.name = some otherType := by
    rw [show type.name = otherType.name from sameTypeName, Abi.AbiType.ofName?_name]
  have sameType : type = otherType := by
    rw [Abi.AbiType.ofName?_name] at known
    exact Option.some.inj known
  rw [show name = otherName from sameName, sameType]

namespace Layout

/-- The layout of an event with a name and fields. Its signature is the name with the types in
order, its topic is the digest of the signature, and each field stands at the index of its place
and is read from the word there. -/
structure IsOfEvent (layout : Layout) (name : String) (fields : List Field) : Prop where
  fields_eq : layout.fields = fields
  signature_eq : layout.signature =
    name ++ "(" ++ ",".intercalate (fields.map fun field => field.type.name) ++ ")"
  topic_eq : layout.topic = Bytes.toMarkedHex (Digest.keccak256 (Utf8.encode layout.signature))
  declared : make layout.kind layout.version layout.signature layout.topic
    (fields.mapIdx fun place field => ⟨field.name, place, field.type.name⟩) = .ok layout
  read : ∀ data values, layout.values data = .ok values → ∀ place field,
    fields[place]? = some field → ∃ value, Abi.read data place field.type = .ok value ∧
      values[place]? = some (field.name, value)

theorem declarations_eq (index : Nat) (fields : List Field) :
    declarations index (fields.map Field.parameter) =
      fields.mapIdx fun place field => ⟨field.name, ↑(index + place), field.type.name⟩ := by
  induction fields generalizing index with
  | nil => rfl
  | cons field rest inductionHypothesis =>
    rw [List.map_cons, declarations, inductionHypothesis, List.mapIdx_cons]
    simp only [Field.parameter, Nat.add_zero, Nat.add_assoc, Nat.add_comm 1]

/-- Different parameters are declared differently. -/
theorem declarations_injective {index : Nat} {parameters others : List Parameter}
    (same : declarations index parameters = declarations index others) : parameters = others := by
  induction parameters generalizing index others with
  | nil =>
    cases others with
    | nil => rfl
    | cons other rest => cases same
  | cons parameter rest inductionHypothesis =>
    cases others with
    | nil => cases same
    | cons other more =>
      obtain ⟨first, later⟩ := List.cons.inj same
      obtain ⟨name, type⟩ := parameter
      cases first
      rw [inductionHypothesis later]

theorem canonical_eq (name : String) (fields : List Field) :
    Signature.canonical ⟨name, fields.map Field.parameter⟩ =
      name ++ "(" ++ ",".intercalate (fields.map fun field => field.type.name) ++ ")" := by
  rw [Signature.canonical, Signature.typeList_eq, List.map_map]
  rfl

theorem isOfEvent (kind : ContractKind) (version : Version) (name : String) (fields : List Field)
    (distinct : (fields.map Field.name).Nodup) :
    let event : Signature := ⟨name, fields.map Field.parameter⟩
    IsOfEvent ⟨kind, version, event.canonical, event.topic, fields, distinct⟩ name fields where
  fields_eq := rfl
  signature_eq := canonical_eq name fields
  topic_eq := rfl
  declared := by
    have accepted := checkFields_declarations
      (Signature.canonical ⟨name, fields.map Field.parameter⟩) fields [] 0 distinct
      fun _ _ => List.not_mem_nil
    rw [declarations_eq] at accepted
    simp only [Nat.zero_add] at accepted
    simp only [make, accepted]
  read := by
    intro data values complete place field found
    rw [Layout.values] at complete
    dsimp only at complete
    split at complete
    · cases complete
    · have each := exists_of_readFields complete found
      rwa [Nat.zero_add] at each

/-- A text that is read as an event with distinct names makes the layout of that event. -/
theorem ofSignature_of_ofText {text name : String} {fields : List Field} (kind : ContractKind)
    (version : Version) (reads : Signature.ofText text = .ok ⟨name, fields.map Field.parameter⟩)
    (distinct : (fields.map Field.name).Nodup) :
    ∃ layout, ofSignature kind version text = .ok layout ∧ layout.kind = kind ∧
      layout.version = version ∧ layout.IsOfEvent name fields := by
  refine ⟨_, ofSignature_eq kind version distinct (by rw [reads]; rfl), rfl, rfl, ?_⟩
  exact isOfEvent kind version name fields distinct

/-- Every layout that a text makes is that of the event which the text declares. -/
theorem ofText_of_ofSignature {text : String} {kind : ContractKind} {version : Version}
    {layout : Layout} (made : ofSignature kind version text = .ok layout) :
    ∃ name, Signature.ofText text = .ok ⟨name, layout.fields.map Field.parameter⟩ ∧
      layout.IsOfEvent name layout.fields := by
  rw [ofSignature] at made
  cases reads : Signature.ofText text with
  | error fault =>
    rw [reads] at made
    cases made
  | ok signature =>
    simp only [reads, make] at made
    cases accepted : checkFields signature.canonical [] 0 (declarations 0 signature.parameters) with
    | error fault =>
      rw [accepted] at made
      cases made
    | ok checked =>
      rw [accepted] at made
      cases made
      obtain ⟨name, parameters⟩ := signature
      obtain rfl : parameters = checked.val.map Field.parameter :=
        declarations_injective (eq_declarations_of_checkFields accepted)
      exact ⟨name, rfl, isOfEvent kind version name checked.val checked.property.1⟩

end Layout

/-! ### Written parameters -/

/-- The name of a parameter and the blanks between the type and it. -/
structure WrittenName where
  gap : List Char
  name : String
  isGap : IsGap gap
  apart : gap ≠ []
  isWord : IsWord name.toList
  isFlat : Signature.IsFlat name.toList
  unmarked : name ≠ "indexed"

/-- A parameter with blanks around it. Its name may be left out. -/
structure WrittenParameter where
  before : List Char
  type : Abi.AbiType
  name? : Option WrittenName
  after : List Char
  isGapBefore : IsGap before
  isGapAfter : IsGap after

namespace WrittenParameter

/-- The type and the name. -/
def core (parameter : WrittenParameter) : List Char :=
  match parameter.name? with
  | none => parameter.type.name.toList
  | some written => parameter.type.name.toList ++ written.gap ++ written.name.toList

/-- The type and the name with the blanks around them. -/
def text (parameter : WrittenParameter) : List Char :=
  parameter.before ++ parameter.core ++ parameter.after

/-- The field at a place that the parameter declares. Without a name it is named after the
place. -/
def field (parameter : WrittenParameter) (place : Nat) : Field :=
  ⟨parameter.name?.elim (Signature.placeName place) WrittenName.name, parameter.type⟩

theorem isWord_type (type : Abi.AbiType) : IsWord type.name.toList := by
  cases type <;> decide

theorem isFlat_type (type : Abi.AbiType) : Signature.IsFlat type.name.toList := by
  cases type <;> decide

/-- No type is spelled like the mark of an indexed parameter. -/
theorem unmarked_type (type : Abi.AbiType) : type.name.toList ≠ "indexed".toList := by
  cases type <;> decide

variable (parameter : WrittenParameter)

theorem isFlat_core : Signature.IsFlat parameter.core := by
  rw [core]
  cases parameter.name? with
  | none => exact isFlat_type parameter.type
  | some written =>
    have isFlatGap := Signature.isFlat_of_isGap written.isGap
    exact ((isFlat_type parameter.type).append isFlatGap).append written.isFlat

theorem isFlat_text : Signature.IsFlat parameter.text :=
  ((Signature.isFlat_of_isGap parameter.isGapBefore).append parameter.isFlat_core).append
    (Signature.isFlat_of_isGap parameter.isGapAfter)

theorem trim_text : trim parameter.text = parameter.core := by
  rw [text, trim_append parameter.isGapBefore parameter.isGapAfter, core]
  cases parameter.name? with
  | none => exact trim_word (isWord_type parameter.type)
  | some written => exact trim_between (isWord_type parameter.type) written.isWord

theorem core_ne_nil : parameter.core ≠ [] := by
  rw [core]
  cases parameter.name? with
  | none => exact (isWord_type parameter.type).nonempty
  | some written =>
    exact List.append_ne_nil_of_right_ne_nil _ written.isWord.nonempty

/-- A written parameter is read as its field, whatever stands between type and name. -/
theorem parameter_core (place : Nat) :
    Signature.parameter place parameter.core = .ok (parameter.field place).parameter := by
  have first := isWord_type parameter.type
  have unmarked := unmarked_type parameter.type
  rw [core, field, Field.parameter]
  cases parameter.name? with
  | none =>
    rw [Signature.parameter_of_type place (words_word first) unmarked, String.ofList_toList]
    rfl
  | some written =>
    have apart : words (parameter.type.name.toList ++ written.gap ++ written.name.toList) =
        [parameter.type.name.toList, written.name.toList] := by
      rw [words_append written.isGap written.apart, words_word first, words_word written.isWord,
        List.singleton_append]
    have unmarkedName : written.name.toList ≠ "indexed".toList := fun same =>
      written.unmarked (String.toList_inj.mp same)
    rw [Signature.parameter_of_name place apart unmarked unmarkedName, String.ofList_toList,
      String.ofList_toList]
    rfl

end WrittenParameter

/-! ### Written signatures -/

/-- An event as it is written. The name may have blanks inside but not around it. The blanks of
`inside` stand between the parentheses when there are no parameters. -/
structure WrittenSignature where
  before : List Char
  name : String
  behindName : List Char
  parameters : List WrittenParameter
  inside : List Char
  after : List Char
  isGapBefore : IsGap before
  isGapBehindName : IsGap behindName
  isGapInside : IsGap inside
  isGapAfter : IsGap after
  trimmed : trim name.toList = name.toList
  noOpening : '(' ∉ name.toList

namespace WrittenSignature

variable (written : WrittenSignature)

/-- What stands between the parentheses. -/
def list : List Char :=
  if written.parameters.isEmpty then written.inside
  else [','].intercalate (written.parameters.map WrittenParameter.text)

def text : String :=
  String.ofList <| written.before ++ written.name.toList ++ written.behindName ++
    '(' :: (written.list ++ ')' :: written.after)

/-- The fields that the parameters declare, in order. -/
def fields : List Field :=
  written.parameters.mapIdx fun place parameter => parameter.field place

/-- The types of the parameters, in order. -/
def types : List Abi.AbiType :=
  written.parameters.map WrittenParameter.type

/-- The text between the parentheses is the list of the written parameters. -/
theorem list_eq : written.list =
    Signature.listed written.inside (written.parameters.map WrittenParameter.text) := by
  rw [list, Signature.listed, List.isEmpty_map]

/-- The reader finds every written parameter, without the blanks around it. -/
theorem parameterTexts_list :
    Signature.parameterTexts written.list = written.parameters.map WrittenParameter.core := by
  have trimmed : trim ∘ WrittenParameter.text = WrittenParameter.core :=
    funext WrittenParameter.trim_text
  rw [list_eq, Signature.parameterTexts_listed written.isGapInside, List.map_map, trimmed]
  · simp only [List.forall_mem_map]
    exact fun parameter _ => parameter.isFlat_text.isWholeFrom
  · simp only [List.forall_mem_map, WrittenParameter.trim_text]
    exact fun parameter _ => parameter.core_ne_nil

theorem map_fields {Value : Type} (value : Field → Value) :
    written.fields.map value =
      written.parameters.mapIdx fun place parameter => value (parameter.field place) := by
  refine List.ext_getElem? fun place => ?_
  simp only [fields, List.getElem?_map, List.getElem?_mapIdx, Option.map_map, Function.comp_def]

/-- The fields have the types of the written parameters, whether these have names or not. -/
theorem map_type_fields :
    (written.fields.map fun field => field.type.name) = written.types.map Abi.AbiType.name := by
  rw [map_fields, List.mapIdx_eq_iff]
  intro place
  simp only [types, List.getElem?_map, Option.map_map]
  rfl

/-- Reading undoes writing. -/
theorem ofText_text :
    Signature.ofText written.text =
      .ok ⟨written.name, written.fields.map Field.parameter⟩ := by
  have spelled : written.text.toList =
      written.before ++ written.name.toList ++ written.behindName ++
        '(' :: (written.list ++ ')' :: written.after) := by
    rw [text, String.toList_ofList]
  rw [Signature.ofText_of_trimmed spelled written.isGapBefore written.isGapBehindName
      written.isGapAfter written.trimmed written.noOpening, parameterTexts_list,
    Signature.parametersFrom_map 0 written.parameters fun parameter _ => parameter.parameter_core]
  simp only [Except.map, map_fields, Nat.zero_add]

/-- A written event makes the layout of its fields. Other blanks and other names of the parameters
leave its topic. -/
theorem ofSignature_text (kind : ContractKind) (version : Version)
    (distinct : (written.fields.map Field.name).Nodup) :
    ∃ layout, Layout.ofSignature kind version written.text = .ok layout ∧ layout.kind = kind ∧
      layout.version = version ∧ layout.IsOfEvent written.name written.fields ∧
      ∀ other : WrittenSignature, other.name = written.name → other.types = written.types →
        ∀ kind version otherLayout, Layout.ofSignature kind version other.text = .ok otherLayout →
          otherLayout.topic = layout.topic := by
  obtain ⟨layout, made, sameKind, sameVersion, isOfEvent⟩ :=
    Layout.ofSignature_of_ofText kind version written.ofText_text distinct
  refine ⟨layout, made, sameKind, sameVersion, isOfEvent, ?_⟩
  intro other sameName sameTypes kind version otherLayout otherMade
  obtain ⟨name, reads, otherIsOfEvent⟩ := Layout.ofText_of_ofSignature otherMade
  rw [other.ofText_text, Except.ok.injEq, Signature.mk.injEq] at reads
  obtain ⟨rfl, sameParameters⟩ := reads
  have sameFields : other.fields = otherLayout.fields :=
    List.map_injective_iff.mpr Field.parameter_injective sameParameters
  have sameSignature : otherLayout.signature = layout.signature := by
    rw [otherIsOfEvent.signature_eq, isOfEvent.signature_eq, ← sameFields, map_type_fields,
      map_type_fields, sameName, sameTypes]
  rw [otherIsOfEvent.topic_eq, isOfEvent.topic_eq, sameSignature]

/-- An event with its parameters over several lines. Two of the names are left out. -/
def overLines : WrittenSignature where
  before := []
  name := "BallotCreated"
  behindName := [' ']
  parameters :=
    [⟨['\n', '\t'], .uint256, some ⟨[' '], "id", by decide, by decide, by decide,
          by decide, by decide⟩, [], by decide, by decide⟩,
      ⟨['\n', '\t'], .address, none, [' '], by decide, by decide⟩,
      ⟨[], .text, none, ['\n'], by decide, by decide⟩]
  inside := []
  after := ['\n']
  isGapBefore := by decide
  isGapBehindName := by decide
  isGapInside := by decide
  isGapAfter := by decide
  trimmed := by decide
  noOpening := by decide

/-- The fields of this event have its types, and those without a name are named after their places.
-/
theorem ofSignature_text_overLines :
    overLines.text = "BallotCreated (\n\tuint256 id,\n\taddress ,string\n)\n" ∧
      (overLines.fields.map Field.name).Nodup ∧
      ∃ layout, Layout.ofSignature .keys .v1 overLines.text = .ok layout ∧
        layout.IsOfEvent "BallotCreated"
          [⟨"id", .uint256⟩, ⟨"arg1", .address⟩, ⟨"arg2", .text⟩] := by
  have distinct : (overLines.fields.map Field.name).Nodup := by decide +kernel
  obtain ⟨layout, made, -, -, isOfEvent, -⟩ := overLines.ofSignature_text .keys .v1 distinct
  have fields : overLines.fields =
      [⟨"id", .uint256⟩, ⟨"arg1", .address⟩, ⟨"arg2", .text⟩] := by decide +kernel
  exact ⟨by decide +kernel, distinct, layout, made, fields ▸ isOfEvent⟩

end WrittenSignature

end BallotWatch
