/-
This file says which values stand in the data of a log, without the reader: a word is 32 bytes
at a multiple of 32, a number is the big-endian reading of its word, an address is the last 20
bytes of one, and a text is the UTF-8 of as many bytes as its length word says, after the
offset that its own word holds.

The reader finds each of these exactly when the data holds it, and refuses the data as malformed
otherwise.
-/

import BallotWatch.Abi.Value
import BallotWatch.Proofs.Text.Utf8
import Mathlib.Data.List.Induction
import Mathlib.Data.Nat.Digits.Defs
import Mathlib.Tactic.Ring

namespace BallotWatch.Abi

/-! ### Bytes of the data -/

/-- The bytes from a place on, as many as asked for or as there are. -/
def bytesAt (data : List UInt8) (start size : Nat) : List UInt8 :=
  (data.drop start).take size

/-- The number whose digits to the base 256 are some bytes, the most significant first. -/
def bigEndian (bytes : List UInt8) : Nat :=
  Nat.ofDigits 256 (bytes.reverse.map UInt8.toNat)

theorem length_bytesAt {data : List UInt8} {start size : Nat}
    (inside : start + size ≤ data.length) : (bytesAt data start size).length = size := by
  rw [bytesAt, List.length_take, List.length_drop]
  omega

theorem uint_append (bytes : List UInt8) (last : UInt8) :
    uint (bytes ++ [last]) = uint bytes * 256 + last.toNat := by
  rw [uint, List.foldl_append]
  rfl

/-- The reader's number of some bytes, which it finds byte by byte, is their big-endian reading. -/
theorem uint_eq_bigEndian (bytes : List UInt8) : uint bytes = bigEndian bytes := by
  induction bytes using List.reverseRecOn with
  | nil => rfl
  | append_singleton bytes last inductionHypothesis =>
    rw [uint_append, inductionHypothesis, bigEndian, bigEndian, List.reverse_append,
      List.reverse_singleton, List.singleton_append, List.map_cons, Nat.ofDigits_cons]
    ring

/-! ### Values -/

/-- The word at an index. -/
def wordOf (data : List UInt8) (index : Nat) : List UInt8 :=
  bytesAt data (32 * index) 32

/-- The number in the word at an index. -/
def numberAt (data : List UInt8) (index : Nat) : Nat :=
  bigEndian (wordOf data index)

/-- The bytes of the address in the word at an index. -/
def addressAt (data : List UInt8) (index : Nat) : List UInt8 :=
  (wordOf data index).drop 12

/-- The length of the byte string whose offset is in the word at an index. -/
def lengthAt (data : List UInt8) (index : Nat) : Nat :=
  bigEndian (bytesAt data (numberAt data index) 32)

/-- The byte string whose offset is in the word at an index. -/
def payloadAt (data : List UInt8) (index : Nat) : List UInt8 :=
  bytesAt data (numberAt data index + 32) (lengthAt data index)

/-- The word at an index has the zeros before an address. -/
def Padded (data : List UInt8) (index : Nat) : Prop :=
  (wordOf data index).take 12 = List.replicate 12 0

/-- The byte string whose offset is in the word at an index lies in the data, with the word that
holds its length. -/
def Contained (data : List UInt8) (index : Nat) : Prop :=
  numberAt data index + 32 ≤ data.length ∧
    numberAt data index + 32 + lengthAt data index ≤ data.length

/-- The byte string whose offset is in the word at an index is the UTF-8 of a text. -/
def Holds (data : List UInt8) (index : Nat) (text : String) : Prop :=
  Contained data index ∧ payloadAt data index = text.toUTF8.data.toList

/-- A fault that the data of an entry is to blame for. -/
def AbiFault.OfData (fault : AbiFault) : Prop :=
  fault.toFault.kind = .malformed

/-! ### Reading -/

section Reading

variable {data : List UInt8} {index : Nat} (inside : 32 * index + 32 ≤ data.length)

include inside

theorem wordAt_eq : wordAt data index = .ok (wordOf data index) := by
  rw [wordAt, wordSize, if_pos inside]
  rfl

theorem length_wordOf : (wordOf data index).length = 32 :=
  length_bytesAt inside

theorem read_uint256 : read data index .uint256 = .ok (.number (numberAt data index)) := by
  rw [read, word_natCast, wordAt_eq inside, Except.map, uint_eq_bigEndian]
  rfl

/-- An address is read from a word that has zeros before it, and written with its checksum. -/
theorem read_address_of_padded (padded : Padded data index) :
    read data index .address = .ok (.address (Address.written (addressAt data index))) := by
  have zeros : ((wordOf data index).take addressPadding).all (· == 0) = true := by
    rw [addressPadding, padded]
    rfl
  have size : ((wordOf data index).drop (32 - addressSize)).length = addressSize := by
    rw [List.length_drop, length_wordOf inside]
    rfl
  rw [read, word_natCast, wordAt_eq inside]
  simp only [Except.bind, address]
  rw [if_pos zeros, length_wordOf inside, if_pos size]
  rfl

/-- A word with something else before an address is refused. -/
theorem read_address_of_not_padded (unpadded : ¬Padded data index) :
    read data index .address = .error .addressPadding := by
  have nonzero : ¬((wordOf data index).take addressPadding).all (· == 0) = true := by
    intro zeros
    refine unpadded (List.eq_replicate_iff.mpr ⟨?_, fun byte member => ?_⟩)
    · rw [List.length_take, length_wordOf inside]
      rfl
    · exact beq_iff_eq.mp (List.all_eq_true.mp zeros byte member)
  rw [read, word_natCast, wordAt_eq inside]
  simp only [Except.bind, address]
  rw [if_neg nonzero]
  rfl

theorem dynamic_eq : dynamic data index = payload data (numberAt data index) := by
  rw [dynamic, word_natCast, wordAt_eq inside]
  simp only [uint_eq_bigEndian]
  rfl

/-- A byte string that lies within the data, as its offset and length say, is read whole. -/
theorem dynamic_of_contained (contained : Contained data index) :
    dynamic data index = .ok (payloadAt data index) := by
  rw [dynamic_eq inside, payload, wordSize, if_pos contained.1]
  simp only [uint_eq_bigEndian]
  exact if_pos contained.2

/-- A byte string that would go on behind the end of the data is refused, and never read in part. So
is one whose length cannot be found. -/
theorem dynamic_of_not_contained (outside : ¬Contained data index) :
    ∃ fault, dynamic data index = .error fault ∧ fault.OfData := by
  rw [dynamic_eq inside, payload, wordSize]
  by_cases offset : numberAt data index + 32 ≤ data.length
  · rw [if_pos offset]
    simp only [uint_eq_bigEndian]
    exact ⟨_, if_neg fun whole => outside ⟨offset, whole⟩, rfl⟩
  · rw [if_neg offset]
    exact ⟨_, rfl, rfl⟩

/-- A text is read where the data holds it. -/
theorem read_text_of_holds {content : String} (holds : Holds data index content) :
    read data index .text = .ok (.text content) := by
  have decoded : Text.Utf8.decode (payloadAt data index) = .ok content := by
    rw [Text.Utf8.decode_eq_ok_iff, Text.Utf8.encode_eq_toUTF8, holds.2]
  rw [read, text, dynamic_of_contained inside holds.1]
  simp only [decoded]
  rfl

/-- Where the data holds no text, the reader blames the data. -/
theorem read_text_of_not_holds (fails : ∀ content, ¬Holds data index content) :
    ∃ fault, read data index .text = .error fault ∧ fault.OfData := by
  by_cases contained : Contained data index
  · cases decoded : Text.Utf8.decode (payloadAt data index) with
    | ok content =>
      rw [Text.Utf8.decode_eq_ok_iff, Text.Utf8.encode_eq_toUTF8] at decoded
      exact absurd ⟨contained, decoded⟩ (fails content)
    | error fault =>
      rw [read, text, dynamic_of_contained inside contained]
      simp only [decoded]
      exact ⟨.notText fault, rfl, rfl⟩
  · obtain ⟨fault, refused, ofData⟩ := dynamic_of_not_contained inside contained
    rw [read, text, refused]
    exact ⟨fault, rfl, ofData⟩

end Reading

end BallotWatch.Abi
