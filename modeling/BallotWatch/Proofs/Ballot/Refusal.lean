/-
This file says what becomes of an entry that a known layout refuses. It is left out, with one
exception: the words about another topic tell the place of the entry, and where a number of the
place has too many digits to be written, that is passed on as a fault of its own.

So an entry is a ballot, or its topic is another, or it is malformed, or it cannot be told that
its topic is another; each is said with its exact condition. An entry has the topic of one known
layout at most, so all others refuse it for its topic.
-/

import BallotWatch.Proofs.Ballot.Acceptance
import BallotWatch.Proofs.Text.Numeral

namespace BallotWatch

open Abi

/-- A place whose numbers can be written. -/
def Position.IsWritable (position : Position) : Prop :=
  Text.Numeral.isWritable position.block = true ∧ Text.Numeral.isWritable position.index = true

instance (position : Position) : Decidable position.IsWritable :=
  inferInstanceAs (Decidable (_ ∧ _))

theorem Fault.telling_position (position : Position) (kind : FaultKind) (text : String) :
    telling [position.block, position.index] kind text =
      if position.IsWritable then ⟨kind, text⟩ else .unwritable := by
  have both : [position.block, position.index].all Text.Numeral.isWritable = true ↔
      position.IsWritable := by
    rw [List.all_cons, List.all_cons, List.all_nil, Bool.and_true, Bool.and_eq_true]
    exact Iff.rfl
  unfold telling
  exact if_congr both rfl rfl

/-! ### What is passed on -/

namespace DecodeFault

variable {fault : DecodeFault}

theorem toFault_of_malformed (malformed : fault.kind = .malformed) :
    fault.toFault = ⟨.malformed, fault.message⟩ := by
  cases fault with
  | topicMismatch => cases malformed
  | _ =>
    rw [toFault, malformed]
    rfl

end DecodeFault

namespace Layout

variable {layout one other : Layout} {entry : LogEntry}

/-- The fault that a layout passes on about an entry that it refuses. -/
def PassesOn (layout : Layout) (entry : LogEntry) (fault : Fault) : Prop :=
  ∃ reason, layout.decode entry = .error reason ∧ reason.toFault = fault

/-- An entry is refused, and what is passed on about it is of a kind. -/
def Refuses (layout : Layout) (entry : LogEntry) (kind : FaultKind) : Prop :=
  ∃ fault, layout.PassesOn entry fault ∧ fault.kind = kind

/-- An entry that a layout refuses without being able to say so: it has another topic, and its place
cannot be written. -/
def Chokes (layout : Layout) (entry : LogEntry) : Prop :=
  ¬layout.HasTopic entry ∧ ¬entry.position.IsWritable

/-- Another topic is told with the place of the entry. -/
theorem decode_of_mismatch (mismatch : ¬layout.HasTopic entry) :
    ∃ reason, layout.decode entry = .error reason ∧
      if entry.position.IsWritable then reason.toFault.kind = .signatureMismatch
      else reason.toFault = .unwritable := by
  rw [decode, if_neg fun matched => mismatch (matchesTopic_iff.mp matched)]
  refine ⟨_, rfl, ?_⟩
  show if entry.position.IsWritable then
      (Fault.telling [entry.position.block, entry.position.index] .signatureMismatch _).kind = _
    else Fault.telling [entry.position.block, entry.position.index] .signatureMismatch _ = _
  rw [Fault.telling_position]
  by_cases writable : entry.position.IsWritable
  · rw [if_pos writable, if_pos writable]
  · rw [if_neg writable, if_neg writable]

/-- Data that is not accepted is told to be malformed, whatever the place of the entry. -/
theorem refuses_of_not_accepts (shape : layout.IsBallot) (topic : layout.HasTopic entry)
    (rejects : ¬layout.Accepts entry.data) : layout.Refuses entry .malformed := by
  obtain ⟨reason, refused, kind⟩ := decode_of_not_accepts shape topic rejects
  refine ⟨reason.toFault, ⟨reason, refused, rfl⟩, ?_⟩
  rw [reason.toFault_of_malformed kind]

/-! ### What is passed on, and when -/

/-- The three faults that a known layout can pass on. Each has its own condition, and no two of
these hold of one entry, so the fault tells what is wrong. -/
theorem passesOn_cases {fault : Fault} (shape : layout.IsBallot)
    (passedOn : layout.PassesOn entry fault) :
    fault.kind = .signatureMismatch ∧ ¬layout.HasTopic entry ∧ entry.position.IsWritable ∨
      fault.kind = .malformed ∧ layout.HasTopic entry ∧ ¬layout.Accepts entry.data ∨
        fault = .unwritable ∧ layout.Chokes entry := by
  obtain ⟨reason, refused, rfl⟩ := passedOn
  by_cases topic : layout.HasTopic entry
  · have rejects : ¬layout.Accepts entry.data := by
      intro accepts
      obtain ⟨ballot, made⟩ := (exists_ballot_iff shape).mpr ⟨topic, accepts⟩
      rw [refused] at made
      cases made
    obtain ⟨-, ⟨other, alsoRefused, rfl⟩, kind⟩ := refuses_of_not_accepts shape topic rejects
    rw [refused] at alsoRefused
    cases alsoRefused
    exact Or.inr (Or.inl ⟨kind, topic, rejects⟩)
  · obtain ⟨other, alsoRefused, passedOn⟩ := decode_of_mismatch topic
    rw [refused] at alsoRefused
    cases alsoRefused
    by_cases writable : entry.position.IsWritable
    · rw [if_pos writable] at passedOn
      exact Or.inl ⟨passedOn, topic, writable⟩
    · rw [if_neg writable] at passedOn
      exact Or.inr (Or.inr ⟨passedOn, topic, writable⟩)

/-- Everything that can become of an entry under a known layout: it is a ballot, it is to blame for
being none, or the layout chokes on it. -/
theorem decode_cases (known : layout ∈ Registry.standard) (entry : LogEntry) :
    (∃ ballot, layout.decode entry = .ok ballot) ∨
      ∃ reason, layout.decode entry = .error reason ∧
        (¬layout.Chokes entry ∧ reason.isOfEntry = true ∨
          layout.Chokes entry ∧ reason.isOfEntry = false ∧ reason.toFault = .unwritable) := by
  cases made : layout.decode entry with
  | ok ballot => exact Or.inl ⟨ballot, rfl⟩
  | error reason =>
    refine Or.inr ⟨reason, rfl, ?_⟩
    unfold DecodeFault.isOfEntry
    rcases passesOn_cases (isBallot_of_mem_standard known) ⟨reason, made, rfl⟩ with
      ⟨kind, -, writable⟩ | ⟨kind, topic, -⟩ | ⟨same, chokes⟩
    · rw [kind]
      exact Or.inl ⟨fun chokes => chokes.2 writable, rfl⟩
    · rw [kind]
      exact Or.inl ⟨fun chokes => chokes.1 topic, rfl⟩
    · rw [same]
      exact Or.inr ⟨chokes, rfl, rfl⟩

/-- A ballot tells what the data of its entry says. -/
theorem tells_of_decode {ballot : Ballot} (shape : layout.IsBallot)
    (made : layout.decode entry = .ok ballot) :
    ∃ reading : Reading, reading.Of layout entry.data ∧ reading.Tells layout ballot := by
  have accepts := accepts_of_decode shape made
  have isOf := (accepts.isReadable shape).reading_of
  obtain ⟨other, same, told⟩ :=
    decode_of_reading shape (hasTopic_of_decode made) isOf (accepts.inRange isOf)
  rw [made] at same
  cases same
  exact ⟨_, isOf, told⟩

/-- What becomes of an entry under a known layout: another topic is a mismatch where the place of
the entry can be written, data that is accepted is a ballot that tells what the data says, and all
other data is malformed. Nothing else is passed on but the fault of a place that cannot be written,
and that exactly where the layout chokes. -/
theorem decode_classifies (known : layout ∈ Registry.standard) (entry : LogEntry) :
    (layout.Refuses entry .signatureMismatch ↔
        ¬layout.HasTopic entry ∧ entry.position.IsWritable) ∧
      ((∃ ballot, layout.decode entry = .ok ballot) ↔
        layout.HasTopic entry ∧ layout.Accepts entry.data) ∧
      (layout.Refuses entry .malformed ↔
        layout.HasTopic entry ∧ ¬layout.Accepts entry.data) ∧
      (layout.PassesOn entry .unwritable ↔ layout.Chokes entry) ∧
      (∀ fault, layout.PassesOn entry fault →
        fault.kind = .signatureMismatch ∨ fault.kind = .malformed ∨ fault = .unwritable) ∧
      ∀ ballot, layout.decode entry = .ok ballot →
        ∃ reading : Reading, reading.Of layout entry.data ∧ reading.Tells layout ballot := by
  have shape := isBallot_of_mem_standard known
  refine ⟨⟨?_, ?_⟩, exists_ballot_iff shape, ⟨?_, ?_⟩, ⟨?_, ?_⟩, ?_,
    fun ballot => tells_of_decode shape⟩
  · rintro ⟨fault, passedOn, kind⟩
    rcases passesOn_cases shape passedOn with ⟨-, foreign⟩ | ⟨other, -⟩ | ⟨rfl, -⟩
    · exact foreign
    · rw [other] at kind
      cases kind
    · cases kind
  · rintro ⟨foreign, writable⟩
    obtain ⟨reason, refused, passedOn⟩ := decode_of_mismatch foreign
    rw [if_pos writable] at passedOn
    exact ⟨_, ⟨reason, refused, rfl⟩, passedOn⟩
  · rintro ⟨fault, passedOn, kind⟩
    rcases passesOn_cases shape passedOn with ⟨other, -⟩ | ⟨-, rejected⟩ | ⟨rfl, -⟩
    · rw [other] at kind
      cases kind
    · exact rejected
    · cases kind
  · rintro ⟨topic, rejects⟩
    exact refuses_of_not_accepts shape topic rejects
  · intro passedOn
    rcases passesOn_cases shape passedOn with ⟨kind, -⟩ | ⟨kind, -⟩ | ⟨-, chokes⟩
    · cases kind
    · cases kind
    · exact chokes
  · rintro ⟨foreign, far⟩
    obtain ⟨reason, refused, passedOn⟩ := decode_of_mismatch foreign
    rw [if_neg far] at passedOn
    exact ⟨reason, refused, passedOn⟩
  · intro fault passedOn
    exact (passesOn_cases shape passedOn).imp And.left (Or.imp And.left And.left)

/-- Words of nothing but zeros are a ballot, whose memo is the empty text. -/
theorem decode_zeros :
    let layout := Registry.eventLayout .threshold .v2
    let entry : LogEntry := ⟨"", [layout.topic], List.replicate 224 0, 0, 0, ""⟩
    layout ∈ Registry.standard ∧ ∃ ballot, layout.decode entry = .ok ballot := by
  intro layout entry
  have known : layout ∈ Registry.standard :=
    Registry.mem_standard.mpr ⟨.threshold, .v2, by decide, rfl⟩
  have topic : layout.HasTopic entry :=
    ⟨layout.topic, rfl, Registry.lowercase_topic known (Text.Recased.refl layout.topic)⟩
  have inside : ∀ index field, layout.fields[index]? = some field → index < 7 := by
    intro index field found
    exact (List.getElem?_eq_some_iff.mp found).1
  have zeros : ∀ index < 7, Padded entry.data index ∧ numberAt entry.data index = 0 ∧
      lengthAt entry.data index = 0 := by
    unfold Padded
    decide +kernel
  have size : entry.data.length = 224 := List.length_replicate
  have accepts : layout.Accepts entry.data := by
    constructor
    case words =>
      rw [size]
      decide
    case addresses => exact fun index name found => (zeros index (inside index _ found)).1
    case memo =>
      intro index found
      obtain ⟨-, offset, length⟩ := zeros index (inside index _ found)
      unfold Contained payloadAt
      rw [offset, length, size]
      exact ⟨by decide, "", rfl⟩
    case times =>
      intro index name _ found
      rw [(zeros index (inside index _ found)).2.1]
      decide
    case ballotType =>
      intro index found
      rw [(zeros index (inside index _ found)).2.1]
      decide
    case affectedKeyType =>
      intro index found
      rw [(zeros index (inside index _ found)).2.1]
      decide
  exact ⟨known, (decode_classifies known entry).2.1.mpr ⟨topic, accepts⟩⟩

/-- An entry without topics is not told to have another topic where its block has too many digits:
what is passed on is that the block cannot be written. -/
theorem decode_of_unwritable :
    let block : Nat := 10 ^ Text.Numeral.digitLimit
    let layout := Registry.eventLayout .threshold .v2
    let entry : LogEntry := ⟨"", [], [], block, 0, ""⟩
    layout ∈ Registry.standard ∧ ¬layout.HasTopic entry ∧
      ¬layout.Refuses entry .signatureMismatch ∧
        layout.PassesOn entry ⟨.value, Text.Numeral.unwritableMessage⟩ := by
  intro block layout entry
  have unwritable : ¬Text.Numeral.isWritable block = true :=
    Text.Numeral.not_isWritable_of_le (Nat.le_refl block)
  -- From here on the block is a name only, so that nothing tries to compute its digits.
  clear_value block
  have known : layout ∈ Registry.standard :=
    Registry.mem_standard.mpr ⟨.threshold, .v2, by decide, rfl⟩
  have foreign : ¬layout.HasTopic entry := not_hasTopic_of_no_topics rfl
  have far : ¬entry.position.IsWritable := fun writable => unwritable writable.1
  have shape := isBallot_of_mem_standard known
  obtain ⟨reason, refused, passedOn⟩ := decode_of_mismatch foreign
  rw [if_neg far] at passedOn
  refine ⟨known, foreign, ?_, reason, refused, passedOn⟩
  rintro ⟨fault, told, kind⟩
  rcases passesOn_cases shape told with ⟨-, -, writable⟩ | ⟨-, topic, -⟩ | ⟨rfl, -⟩
  · exact far writable
  · exact foreign topic
  · cases kind

/-! ### Entries of other layouts -/

theorem topic_ne (known : one ∈ Registry.standard) (alsoKnown : other ∈ Registry.standard)
    (different : (one.kind, one.version) ≠ (other.kind, other.version)) :
    one.topic ≠ other.topic := by
  obtain ⟨kind, version, listed, rfl⟩ := Registry.mem_standard.mp known
  obtain ⟨otherKind, otherVersion, otherListed, rfl⟩ := Registry.mem_standard.mp alsoKnown
  exact fun same => different (Registry.topic_injective listed otherListed same)

/-- An entry is refused for its topic by one of two layouts at least. -/
theorem passesOn_of_topic_ne (different : one.topic ≠ other.topic) (entry : LogEntry) :
    ∃ fault, (one.PassesOn entry fault ∨ other.PassesOn entry fault) ∧
      if entry.position.IsWritable then fault.kind = .signatureMismatch
      else fault = .unwritable := by
  by_cases topic : one.HasTopic entry
  · obtain ⟨reason, refused, passedOn⟩ := decode_of_mismatch fun otherTopic =>
      different (topic_eq_of_hasTopic topic otherTopic)
    exact ⟨_, Or.inr ⟨reason, refused, rfl⟩, passedOn⟩
  · obtain ⟨reason, refused, passedOn⟩ := decode_of_mismatch topic
    exact ⟨_, Or.inl ⟨reason, refused, rfl⟩, passedOn⟩

end Layout

end BallotWatch
