/-
This file proves that an entry whose data was cut off is never taken for another ballot. Whatever
the reader finds in some data lies within it: a word, and a byte string together with the word of
its length. So it finds the same when the data goes on, wherever the offsets and lengths point.

Cut anywhere, the data of a ballot is the same ballot or malformed.
-/

import BallotWatch.Proofs.Ballot.Refusal
import BallotWatch.Proofs.Ballot.RoundTrip

namespace BallotWatch

namespace Abi

/-! ### Data that goes on -/

section More

variable {data : List UInt8} {index : Nat} (more : List UInt8)

/-- Bytes that lie within the data are the same ones when the data goes on. The lemmas of this
section carry this to words, and from words to what stands in them. -/
theorem bytesAt_append {start size : Nat} (inside : start + size ≤ data.length) :
    bytesAt (data ++ more) start size = bytesAt data start size := by
  have enough : size ≤ (data.drop start).length := by
    rw [List.length_drop]
    omega
  rw [bytesAt, bytesAt, List.drop_append_of_le_length (by omega),
    List.take_append_of_le_length enough]

section Words

variable (inside : 32 * index + 32 ≤ data.length)

include inside

theorem wordOf_append : wordOf (data ++ more) index = wordOf data index :=
  bytesAt_append more inside

theorem numberAt_append : numberAt (data ++ more) index = numberAt data index := by
  rw [numberAt, wordOf_append more inside, numberAt]

theorem addressAt_append : addressAt (data ++ more) index = addressAt data index := by
  rw [addressAt, wordOf_append more inside, addressAt]

theorem padded_append : Padded (data ++ more) index ↔ Padded data index := by
  rw [Padded, wordOf_append more inside, Padded]

/-- The length of a byte string is found again, and then the byte string. -/
theorem Contained.append (contained : Contained data index) :
    Contained (data ++ more) index ∧ payloadAt (data ++ more) index = payloadAt data index := by
  obtain ⟨offset, whole⟩ := contained
  have number := numberAt_append more inside
  have length : lengthAt (data ++ more) index = lengthAt data index := by
    rw [lengthAt, number, bytesAt_append more offset, lengthAt]
  unfold Contained payloadAt
  rw [number, length, List.length_append]
  exact ⟨⟨by omega, by omega⟩, bytesAt_append more whole⟩

theorem Holds.append {content : String} (holds : Holds data index content) :
    Holds (data ++ more) index content := by
  obtain ⟨contained, payload⟩ := holds
  obtain ⟨stillContained, same⟩ := contained.append more inside
  exact ⟨stillContained, same.trans payload⟩

end Words

end More

end Abi

open Abi

/-! ### Readings of data that goes on -/

namespace Reading

variable {reading : Reading} {data : List UInt8} (more : List UInt8)

theorem Fits.append {index : Nat} {field : Field} (fits : reading.Fits data index field)
    (inside : 32 * index + 32 ≤ data.length) : reading.Fits (data ++ more) index field := by
  obtain ⟨name, type⟩ := field
  cases type with
  | uint256 => exact (numberAt_append more inside).trans fits
  | address =>
    obtain ⟨padded, bytes⟩ := fits
    exact ⟨(padded_append more inside).mpr padded, (addressAt_append more inside).trans bytes⟩
  | text => exact Holds.append more inside fits

/-- A reading of the data is one of any data that begins with it. -/
theorem Of.append {layout : Layout} (isOf : reading.Of layout data) :
    reading.Of layout (data ++ more) := by
  have words : 32 * layout.fields.length ≤ data.length := isOf.words
  constructor
  case words =>
    rw [List.length_append]
    exact Nat.le_add_right_of_le isOf.words
  case fits =>
    intro index field found
    have place : index < layout.fields.length := (List.getElem?_eq_some_iff.mp found).1
    exact (isOf.fits index field found).append more (by omega)

end Reading

/-! ### Entries whose data goes on -/

namespace Layout

variable {layout : Layout} {entry : LogEntry}

/-- Values are only found in data that can be read. -/
theorem isReadable_of_values {data : List UInt8} {values : FieldValues}
    (found : layout.values data = .ok values) : layout.IsReadable data := by
  by_contra unreadable
  obtain ⟨fault, refused, -⟩ := values_of_not_readable unreadable
  rw [refused] at found
  cases found

/-- The values that are found in some data are found when it goes on. -/
theorem values_append {data : List UInt8} {values : FieldValues}
    (found : layout.values data = .ok values) (more : List UInt8) :
    layout.values (data ++ more) = .ok values := by
  have isOf := (isReadable_of_values found).reading_of
  rw [values_of_reading isOf] at found
  rw [values_of_reading (isOf.append more), found]

/-- A ballot stays the same ballot when the data of its entry goes on. The layout may be any. -/
theorem decode_append {ballot : Ballot} (made : layout.decode entry = .ok ballot)
    (more : List UInt8) :
    layout.decode { entry with data := entry.data ++ more } = .ok ballot := by
  have topic := hasTopic_of_decode made
  have stillTopic : layout.HasTopic { entry with data := entry.data ++ more } := topic
  rw [decode, if_pos (matchesTopic_iff.mpr topic)] at made
  rw [decode, if_pos (matchesTopic_iff.mpr stillTopic)]
  cases found : layout.values entry.data with
  | error fault =>
    rw [found] at made
    cases made
  | ok values =>
    rw [found] at made
    rw [values_append found more]
    exact made

/-- A ballot of a known layout stays what it is whatever follows its data. Data that is cut off is
the same ballot as the whole, or malformed; only under another topic is it neither, and then it is
refused like the whole. -/
theorem decode_of_truncated (known : layout ∈ Registry.standard) (entry : LogEntry) :
    (∀ more ballot, layout.decode entry = .ok ballot →
        layout.decode { entry with data := entry.data ++ more } = .ok ballot) ∧
      ∀ part, part <+: entry.data →
        (∃ ballot, layout.decode { entry with data := part } = .ok ballot ∧
            layout.decode entry = .ok ballot) ∨
          layout.Refuses { entry with data := part } .malformed ∨
            ¬layout.HasTopic entry ∧
              layout.decode { entry with data := part } = layout.decode entry := by
  refine ⟨fun more ballot made => decode_append made more, ?_⟩
  rintro part ⟨rest, whole⟩
  have shape := isBallot_of_mem_standard known
  by_cases topic : layout.HasTopic entry
  · have cutTopic : layout.HasTopic { entry with data := part } := topic
    cases made : layout.decode { entry with data := part } with
    | ok ballot =>
      have goesOn := decode_append made rest
      rw [whole] at goesOn
      exact Or.inl ⟨ballot, rfl, goesOn⟩
    | error fault =>
      right
      left
      have rejects : ¬layout.Accepts part := by
        intro accepts
        obtain ⟨ballot, accepted⟩ := (exists_ballot_iff shape).mpr ⟨cutTopic, accepts⟩
        rw [made] at accepted
        cases accepted
      exact refuses_of_not_accepts shape cutTopic rejects
  · right
    right
    have cutTopic : ¬layout.HasTopic { entry with data := part } := topic
    refine ⟨topic, ?_⟩
    rw [decode, decode, if_neg fun matched => cutTopic (matchesTopic_iff.mp matched),
      if_neg fun matched => topic (matchesTopic_iff.mp matched)]

/-- A ballot about a threshold stays itself with a byte after its data, and is malformed where its
memo is cut off. -/
theorem decode_of_truncated_memo :
    let layout := Registry.eventLayout .threshold .v2
    let reading : Reading :=
      { number := fun _ => 1, address := fun _ => List.replicate 20 0xab, text := fun _ => "raise" }
    let entry : LogEntry := ⟨"", [layout.topic], reading.encode layout, 5, 0, ""⟩
    (∃ ballot, layout.decode entry = .ok ballot ∧
        layout.decode { entry with data := entry.data ++ [7] } = .ok ballot) ∧
      layout.Refuses { entry with data := entry.data.take 260 } .malformed := by
  intro layout reading entry
  have known : layout ∈ Registry.standard :=
    Registry.mem_standard.mpr ⟨.threshold, .v2, by decide, rfl⟩
  have encodable : reading.IsEncodable layout := by
    constructor
    case numbers => exact fun name _ => (by norm_num : (1 : Nat) < 2 ^ 256)
    case addresses => exact fun name _ => List.length_replicate
    case size => decide +kernel
  have inRange : reading.InRange layout := by
    constructor
    case times => exact fun name _ _ => (by norm_num : (1 : Nat) ≤ 253402300799)
    case ballotType => exact fun _ => by decide
    case affectedKeyType => exact fun _ => by decide
  have topic : layout.HasTopic entry :=
    ⟨layout.topic, rfl, Registry.lowercase_topic known (Text.Recased.refl layout.topic)⟩
  have isOf : reading.Of layout entry.data := by
    have whole := Reading.of_encode encodable []
    rwa [List.append_nil] at whole
  have memo : layout.fields[5]? = some ⟨"memo", .text⟩ := by decide
  have cutOff : ¬Contained (entry.data.take 260) 5 := by
    unfold Contained
    decide +kernel
  clear_value entry reading layout
  have shape := isBallot_of_mem_standard known
  obtain ⟨ballot, made, -⟩ := decode_of_reading shape topic isOf inRange
  obtain ⟨goesOn, cut⟩ := decode_of_truncated known entry
  refine ⟨⟨ballot, made, goesOn [7] ballot made⟩, ?_⟩
  rcases cut (entry.data.take 260) (List.take_prefix 260 entry.data) with
    ⟨other, sameBallot, -⟩ | malformed | ⟨foreign, -⟩
  · exact absurd ((accepts_of_decode shape sameBallot).memo 5 memo).1 cutOff
  · exact malformed
  · exact absurd topic foreign

end Layout

end BallotWatch
