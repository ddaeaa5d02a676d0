/-
This file says what the fields of an entry are read as. A reading gives each name a number, the
bytes of an address and a text; of a field it says the one of its type. A reading is of some data
when the word of every field holds what the reading says of it.

The values of a layout's fields are those of the reading of the data, and the data is refused as
malformed when it has none.
-/

import BallotWatch.Ballot.Decode
import BallotWatch.Proofs.Abi.Word
import Mathlib.Data.List.Nodup

namespace BallotWatch

open Abi

/-! ### Readings -/

/-- What the fields of an entry are read as, by name. -/
structure Reading where
  number : String → Nat
  address : String → List UInt8
  text : String → String

namespace Reading

/-- The value of a field. -/
def value (reading : Reading) (field : Field) : AbiValue :=
  match field.type with
  | .uint256 => .number (reading.number field.name)
  | .address => .address (Address.written (reading.address field.name))
  | .text => .text (reading.text field.name)

/-- The values of fields, by name. -/
def values (reading : Reading) (fields : List Field) : FieldValues :=
  fields.map fun field => (field.name, reading.value field)

/-- The word at an index holds what a reading says of a field. -/
def Fits (reading : Reading) (data : List UInt8) (index : Nat) (field : Field) : Prop :=
  match field.type with
  | .uint256 => numberAt data index = reading.number field.name
  | .address => Padded data index ∧ addressAt data index = reading.address field.name
  | .text => Holds data index (reading.text field.name)

/-- The words of fields from an index on hold what a reading says of the fields. -/
def FitsFrom (reading : Reading) (data : List UInt8) (index : Nat) (fields : List Field) :
    Prop :=
  ∀ place field, fields[place]? = some field → reading.Fits data (index + place) field

theorem fitsFrom_cons {reading : Reading} {data : List UInt8} {index : Nat} {field : Field}
    {rest : List Field} :
    reading.FitsFrom data index (field :: rest) ↔
      reading.Fits data index field ∧ reading.FitsFrom data (index + 1) rest := by
  constructor
  · intro fits
    refine ⟨fits 0 field rfl, fun place later found => ?_⟩
    rw [show index + 1 + place = index + (place + 1) from by omega]
    exact fits (place + 1) later found
  · rintro ⟨first, later⟩ place other found
    cases place with
    | zero =>
      obtain rfl : field = other := Option.some.inj found
      exact first
    | succ place =>
      rw [show index + (place + 1) = index + 1 + place from by omega]
      exact later place other found

end Reading

/-! ### The values of fields -/

/-- The word at an index can be read as a value of a type. -/
def Abi.Readable (data : List UInt8) (index : Nat) : AbiType → Prop
  | .uint256 => True
  | .address => Padded data index
  | .text => ∃ content, Holds data index content

/-- What the data can be read as is found, for each type. -/
theorem Abi.read_of_readable {data : List UInt8} {index : Nat} {type : AbiType}
    (inside : 32 * index + 32 ≤ data.length) (readable : Readable data index type) :
    ∃ value, read data index type = .ok value := by
  cases type with
  | uint256 => exact ⟨_, read_uint256 inside⟩
  | address => exact ⟨_, read_address_of_padded inside readable⟩
  | text =>
    obtain ⟨content, holds⟩ := readable
    exact ⟨_, read_text_of_holds inside holds⟩

theorem Abi.read_of_not_readable {data : List UInt8} {index : Nat} {type : AbiType}
    (inside : 32 * index + 32 ≤ data.length) (unreadable : ¬Readable data index type) :
    ∃ fault, read data index type = .error fault ∧ fault.OfData := by
  cases type with
  | uint256 => exact absurd trivial unreadable
  | address => exact ⟨_, read_address_of_not_padded inside unreadable, rfl⟩
  | text => exact read_text_of_not_holds inside fun content holds => unreadable ⟨content, holds⟩

theorem Reading.Fits.read_eq {reading : Reading} {data : List UInt8} {index : Nat}
    {field : Field} (fits : reading.Fits data index field)
    (inside : 32 * index + 32 ≤ data.length) :
    read data index field.type = .ok (reading.value field) := by
  obtain ⟨name, type⟩ := field
  cases type with
  | uint256 =>
    have holds : numberAt data index = reading.number name := fits
    rw [read_uint256 inside, holds]
    rfl
  | address =>
    obtain ⟨padded, holds⟩ : Padded data index ∧ addressAt data index = reading.address name :=
      fits
    rw [read_address_of_padded inside padded, holds]
    rfl
  | text => exact read_text_of_holds inside fits

theorem Reading.Fits.readable {reading : Reading} {data : List UInt8} {index : Nat}
    {field : Field} (fits : reading.Fits data index field) :
    Readable data index field.type := by
  obtain ⟨name, type⟩ := field
  cases type with
  | uint256 => trivial
  | address => exact fits.1
  | text => exact ⟨reading.text name, fits⟩

/-- Fields that stand in the data as a reading says have the values that it says. The induction goes
through the fields and keeps the index of the next word. -/
theorem readFields_of_fits {reading : Reading} {data : List UInt8} {index : Nat}
    {fields : List Field} (inside : 32 * (index + fields.length) ≤ data.length)
    (fits : reading.FitsFrom data index fields) :
    readFields data index fields = .ok (reading.values fields) := by
  induction fields generalizing index with
  | nil => rfl
  | cons field rest inductionHypothesis =>
    rw [List.length_cons] at inside
    obtain ⟨first, later⟩ := Reading.fitsFrom_cons.mp fits
    rw [readFields, first.read_eq (by omega)]
    simp only [inductionHypothesis (by omega) later]
    rfl

/-- A field whose word cannot be read spoils the data. -/
theorem readFields_of_not_readable {data : List UInt8} {index place : Nat} {fields : List Field}
    {field : Field} (inside : 32 * (index + fields.length) ≤ data.length)
    (found : fields[place]? = some field)
    (unreadable : ¬Readable data (index + place) field.type) :
    ∃ fault, readFields data index fields = .error fault ∧ fault.kind = .malformed := by
  induction fields generalizing index place with
  | nil => cases found
  | cons first rest inductionHypothesis =>
    rw [List.length_cons] at inside
    rw [readFields]
    by_cases readable : Readable data index first.type
    · obtain ⟨value, firstRead⟩ := read_of_readable (by omega) readable
      cases place with
      | zero =>
        obtain rfl : first = field := Option.some.inj found
        exact absurd readable unreadable
      | succ place =>
        rw [show index + (place + 1) = index + 1 + place from by omega] at unreadable
        obtain ⟨fault, refused, kind⟩ := inductionHypothesis (by omega) found unreadable
        refine ⟨fault, ?_, kind⟩
        rw [firstRead]
        simp only [refused]
        rfl
    · obtain ⟨fault, refused, ofData⟩ := read_of_not_readable (by omega) readable
      rw [refused]
      exact ⟨.unreadable fault, rfl, ofData⟩

/-! ### The reading of data -/

/-- The text whose offset is in the word at an index, or none at all where that is no text. -/
def Abi.textAt (data : List UInt8) (index : Nat) : String :=
  match Text.Utf8.decode (payloadAt data index) with
  | .ok content => content
  | .error _ => ""

theorem Abi.holds_textAt {data : List UInt8} {index : Nat}
    (readable : Readable data index .text) : Holds data index (textAt data index) := by
  obtain ⟨content, contained, same⟩ := readable
  have decoded : Text.Utf8.decode (payloadAt data index) = .ok content := by
    rw [Text.Utf8.decode_eq_ok_iff, Text.Utf8.encode_eq_toUTF8, same]
  have found : textAt data index = content := by
    rw [textAt, decoded]
  rw [found]
  exact ⟨contained, same⟩

/-- A reading of the data of a layout's entries: the data has a word for every field, and each
holds what the reading says of its field. -/
structure Reading.Of (reading : Reading) (layout : Layout) (data : List UInt8) : Prop where
  words : 32 * layout.headWords ≤ data.length
  fits : reading.FitsFrom data 0 layout.fields

namespace Layout

/-- The index of the field with a name. -/
def place (layout : Layout) (name : String) : Nat :=
  (layout.fields.map Field.name).idxOf name

theorem place_eq {layout : Layout} {index : Nat} {field : Field}
    (found : layout.fields[index]? = some field) : layout.place field.name = index := by
  have named : (layout.fields.map Field.name)[index]? = some field.name := by
    rw [List.getElem?_map, found, Option.map_some]
  obtain ⟨bound, same⟩ := List.getElem?_eq_some_iff.mp named
  rw [place, ← same]
  exact layout.distinct.idxOf_getElem index bound

/-- What data says of a layout's fields. -/
def reading (layout : Layout) (data : List UInt8) : Reading where
  number name := numberAt data (layout.place name)
  address name := addressAt data (layout.place name)
  text name := textAt data (layout.place name)

/-- The words that must be read can be. -/
structure IsReadable (layout : Layout) (data : List UInt8) : Prop where
  words : 32 * layout.headWords ≤ data.length
  fields : ∀ index field, layout.fields[index]? = some field → Readable data index field.type

/-- Data that can be read has a reading, namely its own. -/
theorem IsReadable.reading_of {layout : Layout} {data : List UInt8}
    (readable : layout.IsReadable data) : (layout.reading data).Of layout data := by
  refine ⟨readable.words, fun index field found => ?_⟩
  rw [Nat.zero_add]
  have each := readable.fields index field found
  have same := place_eq found
  obtain ⟨name, type⟩ := field
  cases type with
  | uint256 =>
    show numberAt data index = numberAt data (layout.place name)
    rw [same]
  | address =>
    refine ⟨each, ?_⟩
    show addressAt data index = addressAt data (layout.place name)
    rw [same]
  | text =>
    show Holds data index (textAt data (layout.place name))
    rw [same]
    exact holds_textAt each

/-- The values of the fields are those that the reading of the data says. -/
theorem values_of_reading {layout : Layout} {data : List UInt8} {reading : Reading}
    (isOf : reading.Of layout data) : layout.values data = .ok (reading.values layout.fields) := by
  have words : ¬data.length < wordSize * layout.headWords := Nat.not_lt.mpr isOf.words
  have inside : 32 * (0 + layout.fields.length) ≤ data.length := by
    rw [Nat.zero_add]
    exact isOf.words
  simp only [values]
  rw [if_neg words]
  exact readFields_of_fits inside isOf.fits

/-- Data without a reading is malformed, be it too short or not readable at one of the fields. -/
theorem values_of_not_readable {layout : Layout} {data : List UInt8}
    (unreadable : ¬layout.IsReadable data) :
    ∃ fault, layout.values data = .error fault ∧ fault.kind = .malformed := by
  simp only [values]
  by_cases words : 32 * layout.headWords ≤ data.length
  · have each : ¬∀ index field, layout.fields[index]? = some field →
        Readable data index field.type :=
      fun fields => unreadable ⟨words, fields⟩
    push Not at each
    obtain ⟨index, field, found, bad⟩ := each
    have inside : 32 * (0 + layout.fields.length) ≤ data.length := by
      rw [Nat.zero_add]
      exact words
    have enough : ¬data.length < wordSize * layout.headWords := Nat.not_lt.mpr words
    rw [if_neg enough]
    refine readFields_of_not_readable inside found ?_
    rw [Nat.zero_add]
    exact bad
  · have short : data.length < wordSize * layout.headWords := Nat.not_le.mp words
    rw [if_pos short]
    exact ⟨_, rfl, rfl⟩

end Layout

end BallotWatch
