/-
This file says that the canonical form of an event does not change when it is read again. A text of
any characters either makes a layout, whose signature then is a canonical form, with the digest of
that form as its topic, or it is refused for what it says.
-/

import BallotWatch.Proofs.Ballot.Spelling
import Mathlib

namespace BallotWatch

open Text

namespace Signature

theorem placeName_injective : Function.Injective placeName := fun _ _ same =>
  Nat.repr_injective ((String.append_right_inj "arg").mp same)

end Signature

/-! ### Canonical forms -/

namespace WrittenSignature

/-- An event written without blanks and without the names of its parameters. -/
def canonical (name : String) (types : List Abi.AbiType) (trimmed : trim name.toList = name.toList)
    (noOpening : '(' ∉ name.toList) : WrittenSignature where
  before := []
  name := name
  behindName := []
  parameters := types.map fun type => ⟨[], type, none, [], isGap_nil, isGap_nil⟩
  inside := []
  after := []
  isGapBefore := isGap_nil
  isGapBehindName := isGap_nil
  isGapInside := isGap_nil
  isGapAfter := isGap_nil
  trimmed := trimmed
  noOpening := noOpening

variable {name : String} {types : List Abi.AbiType} (trimmed : trim name.toList = name.toList)
  (noOpening : '(' ∉ name.toList)

/-- A canonical form has a name and the types between brackets, with commas and without blanks or
names. -/
theorem text_canonical :
    (canonical name types trimmed noOpening).text =
      name ++ "(" ++ ",".intercalate (types.map Abi.AbiType.name) ++ ")" := by
  have bare (type : Abi.AbiType) :
      WrittenParameter.text ⟨[], type, none, [], isGap_nil, isGap_nil⟩ = type.name.toList := by
    rw [WrittenParameter.text, WrittenParameter.core, List.nil_append, List.append_nil]
  have list : (canonical name types trimmed noOpening).list =
      [','].intercalate (types.map fun type => type.name.toList) := by
    rw [WrittenSignature.list]
    cases types with
    | nil => rfl
    | cons first rest =>
      rw [if_neg (by simp [canonical]), canonical, List.map_map]
      exact congrArg _ (List.map_congr_left fun type _ => bare type)
  refine String.toList_inj.mp ?_
  rw [text, list, String.toList_ofList]
  simp only [canonical, String.toList_append, String.toList_intercalate, List.map_map,
    List.nil_append, List.append_nil, List.append_assoc]
  rfl

/-- Fields without names are named after their places. -/
theorem fields_canonical :
    (canonical name types trimmed noOpening).fields =
      types.mapIdx fun place type => ⟨Signature.placeName place, type⟩ := by
  refine List.ext_getElem? fun place => ?_
  simp only [fields, canonical, List.getElem?_mapIdx, List.getElem?_map, Option.map_map]
  rfl

theorem types_canonical : (canonical name types trimmed noOpening).types = types := by
  rw [WrittenSignature.types, canonical, List.map_map]
  exact List.map_id types

theorem distinct_canonical :
    ((canonical name types trimmed noOpening).fields.map Field.name).Nodup := by
  rw [fields_canonical, List.nodup_iff_injective_getElem]
  intro place other same
  simp only [List.getElem_map, List.getElem_mapIdx] at same
  exact Fin.ext (Signature.placeName_injective same)

end WrittenSignature

/-! ### Layouts and refusals -/

namespace Layout

theorem kind_of_checkFields {signature : String} {seen : List String} {index : Nat}
    {declared : List FieldDeclaration} {fault : LayoutFault}
    (refused : checkFields signature seen index declared = .error fault) :
    fault.toFault.kind = .value := by
  induction declared generalizing seen index with
  | nil => cases refused
  | cons first rest inductionHypothesis =>
    rw [checkFields] at refused
    cases known : Abi.AbiType.ofName? first.type with
    | none =>
      rw [known] at refused
      cases refused
      rfl
    | some type =>
      rw [known] at refused
      dsimp only at refused
      by_cases misplaced : first.index ≠ index
      · rw [if_pos misplaced] at refused
        cases refused
        rfl
      rw [if_neg misplaced] at refused
      by_cases present : first.name ∈ seen
      · rw [dif_pos present] at refused
        cases refused
        rfl
      rw [dif_neg present] at refused
      cases others : checkFields signature (first.name :: seen) (index + 1) rest with
      | error later =>
        rw [others] at refused
        cases refused
        exact inductionHypothesis others
      | ok later =>
        rw [others] at refused
        cases refused

/-- Every text that makes no layout is refused with a fault of a value. -/
theorem kind_of_ofSignature {text : String} {kind : ContractKind} {version : Version}
    {fault : LayoutFault} (refused : ofSignature kind version text = .error fault) :
    fault.toFault.kind = .value := by
  rw [ofSignature] at refused
  cases reads : Signature.ofText text with
  | error unreadable =>
    rw [reads] at refused
    cases refused
    rfl
  | ok signature =>
    simp only [reads, make] at refused
    cases checked : checkFields signature.canonical [] 0 (declarations 0 signature.parameters) with
    | error declared =>
      rw [checked] at refused
      cases refused
      exact kind_of_checkFields checked
    | ok checked =>
      simp only [checked] at refused
      cases refused

/-- The signature of a layout is read as the same event, only that the fields are named after their
places. -/
theorem reads_signature {layout : Layout} {name : String}
    (isOfEvent : layout.IsOfEvent name layout.fields) (trimmed : trim name.toList = name.toList)
    (noOpening : '(' ∉ name.toList) (kind : ContractKind) (version : Version) :
    (Signature.ofText layout.signature).map Signature.canonical = .ok layout.signature ∧
      (Signature.ofText layout.signature).map Signature.topic = .ok layout.topic ∧
      ∃ again, ofSignature kind version layout.signature = .ok again ∧
        again.signature = layout.signature ∧ again.topic = layout.topic ∧
        again.IsOfEvent name ((layout.fields.map Field.type).mapIdx fun place type =>
          ⟨Signature.placeName place, type⟩) := by
  let written := WrittenSignature.canonical name (layout.fields.map Field.type) trimmed noOpening
  have spelled : written.text = layout.signature := by
    rw [WrittenSignature.text_canonical, isOfEvent.signature_eq, List.map_map]
    rfl
  have reads := written.ofText_text
  obtain ⟨again, remade, -, -, againIsOfEvent⟩ := ofSignature_of_ofText kind version reads
    (WrittenSignature.distinct_canonical trimmed noOpening)
  have sameSignature : again.signature = layout.signature := by
    rw [againIsOfEvent.signature_eq, isOfEvent.signature_eq, written.map_type_fields,
      WrittenSignature.types_canonical, List.map_map]
    rfl
  have canonical : Signature.canonical ⟨written.name, written.fields.map Field.parameter⟩ =
      layout.signature := by
    rw [canonical_eq, ← againIsOfEvent.signature_eq, sameSignature]
  rw [spelled] at reads remade
  refine ⟨?_, ?_, again, remade, sameSignature, ?_, ?_⟩
  · rw [reads]
    exact congrArg Except.ok canonical
  · rw [reads, isOfEvent.topic_eq, ← canonical]
    rfl
  · rw [againIsOfEvent.topic_eq, isOfEvent.topic_eq, sameSignature]
  · rw [← WrittenSignature.fields_canonical trimmed noOpening]
    exact againIsOfEvent

/-- Every text makes a layout whose signature is canonical, or is refused for what it says. -/
theorem ofSignature_canonical (kind : ContractKind) (version : Version) (text : String) :
    (∃ layout name, ofSignature kind version text = .ok layout ∧ '(' ∈ text.toList ∧
      name = String.ofList (trim (text.toList.takeWhile (· != '('))) ∧
      layout.IsOfEvent name layout.fields ∧ (layout.fields.map Field.name).Nodup ∧
      (Signature.ofText layout.signature).map Signature.canonical = .ok layout.signature ∧
      (Signature.ofText layout.signature).map Signature.topic = .ok layout.topic ∧
      ∃ again, ofSignature kind version layout.signature = .ok again ∧
        again.signature = layout.signature ∧ again.topic = layout.topic ∧
        again.IsOfEvent name ((layout.fields.map Field.type).mapIdx fun place type =>
          ⟨Signature.placeName place, type⟩)) ∨
      ∃ fault, ofSignature kind version text = .error fault ∧ fault.toFault.kind = .value := by
  cases made : ofSignature kind version text with
  | error fault => exact .inr ⟨fault, rfl, kind_of_ofSignature made⟩
  | ok layout =>
    obtain ⟨name, reads, isOfEvent⟩ := ofText_of_ofSignature made
    obtain ⟨outer, inner, after, whole, opens, -, named⟩ := Signature.exists_of_ofText reads
    have named : name = String.ofList (trim outer) := named
    have trimmed : trim name.toList = name.toList := by
      rw [named, String.toList_ofList, trim_trim]
    have noOpening : '(' ∉ name.toList := by
      rw [named, String.toList_ofList]
      exact fun among => opens (mem_of_mem_trim among)
    refine .inl ⟨layout, name, rfl, ?_, ?_, isOfEvent, layout.distinct,
      reads_signature isOfEvent trimmed noOpening kind version⟩
    · rw [whole]
      exact List.mem_append_right outer List.mem_cons_self
    · rw [whole, takeWhile_append_cons opens, named]

end Layout

end BallotWatch
