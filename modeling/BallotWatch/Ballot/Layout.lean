/-
This file describes where the fields of a ballot event stand in the data of its log entries.
Each field has the word at its own place, its type can be read, and no two fields share a name.
-/

import BallotWatch.Abi.Value
import BallotWatch.Ballot.Signature
import BallotWatch.Chain.Contract

namespace BallotWatch

/-- A field of an event. Its place in the list of fields is the index of its word. -/
structure Field where
  name : String
  type : Abi.AbiType
  deriving DecidableEq, Repr

/-- The layout of a ballot event: the contract that emits it, its canonical signature and first
topic, and its fields in order. -/
structure Layout where
  kind : ContractKind
  version : Version
  signature : String
  topic : String
  fields : List Field
  distinct : (fields.map Field.name).Nodup
  deriving Repr

/-- A field as declared: the index and the type may be any. -/
structure FieldDeclaration where
  name : String
  index : Int
  type : String
  deriving DecidableEq, Repr

/-- Why declared fields make no layout. -/
inductive LayoutFault
  | unreadable (fault : SignatureFault)
  | unsupportedType (name type : String)
  | outOfOrder (name : String) (index : Int)
  | duplicate (name signature : String)
  | missing (kind : ContractKind) (version : Version)
  deriving DecidableEq, Repr

/-- The fault in words. -/
def LayoutFault.message : LayoutFault → String
  | unreadable fault => fault.message
  | unsupportedType name type => s!"{name}: unsupported ABI type {Text.quoted type}"
  | outOfOrder name index => s!"{name}: word index {index} out of order"
  | duplicate name signature => s!"duplicate field {Text.quoted name} in {signature}"
  | missing kind version => s!"no {version.name} ballot layout for the {kind.name} contract"

/-- The fault as it is passed on. -/
def LayoutFault.toFault (fault : LayoutFault) : Fault :=
  match fault with
  | missing _ _ => ⟨.config, fault.message⟩
  | _ => ⟨.value, fault.message⟩

namespace Layout

/-- Fields whose names differ from each other and from those seen before them. -/
abbrev FreshFields (seen : List String) : Type :=
  { fields : List Field // (fields.map Field.name).Nodup ∧ ∀ field ∈ fields, field.name ∉ seen }

/-- Checks declared fields from an index on, one after another: the type of each, then its
index, then its name. -/
def checkFields (signature : String) (seen : List String) (index : Nat) :
    List FieldDeclaration → Except LayoutFault (FreshFields seen)
  | [] => .ok ⟨[], by simp⟩
  | declared :: rest =>
    match Abi.AbiType.ofName? declared.type with
    | none => .error (.unsupportedType declared.name declared.type)
    | some type =>
      if declared.index ≠ index then .error (.outOfOrder declared.name declared.index)
      else if present : declared.name ∈ seen then .error (.duplicate declared.name signature)
      else
        match checkFields signature (declared.name :: seen) (index + 1) rest with
        | .error fault => .error fault
        | .ok later =>
          .ok ⟨⟨declared.name, type⟩ :: later.val, by
            obtain ⟨distinct, fresh⟩ := later.property
            constructor
            · simp only [List.map_cons, List.nodup_cons]
              refine ⟨?_, distinct⟩
              intro member
              obtain ⟨field, inFields, same⟩ := List.mem_map.mp member
              exact fresh field inFields (by simp [same])
            · intro field member
              rcases List.mem_cons.mp member with first | inLater
              · simpa [first] using present
              · intro inSeen
                exact fresh field inLater (List.mem_cons_of_mem _ inSeen)⟩

/-- The layout of declared fields. -/
def make (kind : ContractKind) (version : Version) (signature topic : String)
    (declared : List FieldDeclaration) : Except LayoutFault Layout :=
  match checkFields signature [] 0 declared with
  | .error fault => .error fault
  | .ok checked => .ok ⟨kind, version, signature, topic, checked.val, checked.property.1⟩

/-- The parameters of a signature as declared fields, each at the index of its place. -/
def declarations (index : Nat) : List Parameter → List FieldDeclaration
  | [] => []
  | parameter :: rest =>
    ⟨parameter.name, index, parameter.type⟩ :: declarations (index + 1) rest

/-- The layout of an event given by its signature. -/
def ofSignature (kind : ContractKind) (version : Version) (text : String) :
    Except LayoutFault Layout :=
  match Signature.ofText text with
  | .error fault => .error (.unreadable fault)
  | .ok signature =>
    make kind version signature.canonical signature.topic (declarations 0 signature.parameters)

/-- The words that the data of an entry must hold at least. -/
def headWords (layout : Layout) : Nat :=
  layout.fields.length

end Layout

end BallotWatch
