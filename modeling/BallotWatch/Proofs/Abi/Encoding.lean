/-
This file is the standard encoding of arguments. Each argument has a word among the heads. A
number and an address stand in it, a text stands among the tails behind all heads, and its word
holds the offset of its tail: a word with the number of bytes, the bytes, and zeros up to a whole
word.

What follows the encoding does not matter, since each part is found from its own start.
-/

import BallotWatch.Proofs.Abi.Word
import Mathlib.Tactic.NormNum

namespace BallotWatch.Abi

/-! ### Numbers as bytes -/

/-- A number in some bytes, the most significant first. -/
def bytesOfNumber : Nat → Nat → List UInt8
  | 0, _ => []
  | size + 1, number => bytesOfNumber size (number / 256) ++ [UInt8.ofNat (number % 256)]

/-- A number in a word. -/
def wordOfNumber (number : Nat) : List UInt8 :=
  bytesOfNumber 32 number

theorem length_bytesOfNumber (size number : Nat) : (bytesOfNumber size number).length = size := by
  induction size generalizing number with
  | zero => rfl
  | succ size inductionHypothesis =>
    rw [bytesOfNumber, List.length_append, inductionHypothesis]
    rfl

theorem length_wordOfNumber (number : Nat) : (wordOfNumber number).length = 32 :=
  length_bytesOfNumber 32 number

/-- The bytes of a number are read as that number again, if there are enough of them for it. -/
theorem bigEndian_bytesOfNumber {size number : Nat} (fits : number < 256 ^ size) :
    bigEndian (bytesOfNumber size number) = number := by
  induction size generalizing number with
  | zero =>
    obtain rfl : number = 0 := Nat.lt_one_iff.mp fits
    rfl
  | succ size inductionHypothesis =>
    have quotient : number / 256 < 256 ^ size := by
      rw [Nat.div_lt_iff_lt_mul (by decide), ← Nat.pow_succ]
      exact fits
    have digit : (UInt8.ofNat (number % 256)).toNat = number % 256 := by
      rw [UInt8.toNat_ofNat']
      exact Nat.mod_mod number 256
    rw [bytesOfNumber, ← uint_eq_bigEndian, uint_append, uint_eq_bigEndian,
      inductionHypothesis quotient, digit]
    exact Nat.div_add_mod' number 256

theorem bigEndian_wordOfNumber {number : Nat} (fits : number < 2 ^ 256) :
    bigEndian (wordOfNumber number) = number := by
  refine bigEndian_bytesOfNumber ?_
  norm_num
  exact fits

/-! ### Arguments -/

/-- An argument of an event. -/
inductive Argument
  | number (value : Nat)
  | address (bytes : List UInt8)
  | text (content : String)

namespace Argument

/-- The word of an argument whose tail, if it has one, is at an offset. -/
def head (offset : Nat) : Argument → List UInt8
  | number value => wordOfNumber value
  | address bytes => List.replicate 12 0 ++ bytes
  | text _ => wordOfNumber offset

/-- The zeros that fill up some bytes to whole words. -/
def filling (size : Nat) : List UInt8 :=
  List.replicate ((32 - size % 32) % 32) 0

/-- A byte string after the word with its length, filled up to whole words. -/
def withLength (bytes : List UInt8) : List UInt8 :=
  wordOfNumber bytes.length ++ bytes ++ filling bytes.length

theorem length_withLength (bytes : List UInt8) :
    (withLength bytes).length = 32 + bytes.length + (filling bytes.length).length := by
  rw [withLength, List.length_append, List.length_append, length_wordOfNumber]

/-- The tail of an argument. -/
def tail : Argument → List UInt8
  | number _ | address _ => []
  | text content => withLength content.toUTF8.data.toList

/-- The tails of arguments, one after another. -/
def tails (arguments : List Argument) : List UInt8 :=
  arguments.flatMap tail

/-- The heads of arguments whose tails start at an offset. -/
def heads (offset : Nat) : List Argument → List UInt8
  | [] => []
  | argument :: rest => argument.head offset ++ heads (offset + argument.tail.length) rest

/-- The encoding of arguments. -/
def encode (arguments : List Argument) : List UInt8 :=
  heads (32 * arguments.length) arguments ++ tails arguments

/-- An argument that its word can hold. -/
def Fits : Argument → Prop
  | number value => value < 2 ^ 256
  | address bytes => bytes.length = 20
  | text _ => True

/-- Every argument has one word among the heads, whatever its type, so that the word of the next one
follows it. -/
theorem length_head {argument : Argument} (fits : argument.Fits) (offset : Nat) :
    (argument.head offset).length = 32 := by
  cases argument with
  | number value => exact length_wordOfNumber value
  | address bytes =>
    have size : bytes.length = 20 := fits
    rw [head, List.length_append, List.length_replicate, size]
  | text content => exact length_wordOfNumber offset

/-- The heads are as many words as there are arguments, which tells where the tails begin. -/
theorem length_heads {arguments : List Argument} (fit : ∀ argument ∈ arguments, argument.Fits)
    (offset : Nat) : (heads offset arguments).length = 32 * arguments.length := by
  induction arguments generalizing offset with
  | nil => rfl
  | cons argument rest inductionHypothesis =>
    have fitRest : ∀ later ∈ rest, later.Fits := fun later member =>
      fit later (List.mem_cons_of_mem argument member)
    rw [heads, List.length_append, length_head (fit argument List.mem_cons_self) offset,
      inductionHypothesis fitRest, List.length_cons]
    ring

end Argument

/-! ### Finding parts -/

/-- A part of the data starts at a place. -/
def StartsAt (part data : List UInt8) (start : Nat) : Prop :=
  part <+: data.drop start

/-- A part that starts somewhere in the data is what the reader takes from there. -/
theorem StartsAt.bytesAt_eq {part data : List UInt8} {start size : Nat}
    (starts : StartsAt part data start) (length : part.length = size) :
    bytesAt data start size = part := by
  rw [bytesAt, ← length]
  exact (List.prefix_iff_eq_take.mp starts).symm

theorem StartsAt.left {first second data : List UInt8} {start : Nat}
    (starts : StartsAt (first ++ second) data start) : StartsAt first data start :=
  (List.prefix_append first second).trans starts

theorem StartsAt.right {first second data : List UInt8} {start : Nat}
    (starts : StartsAt (first ++ second) data start) :
    StartsAt second data (start + first.length) := by
  obtain ⟨rest, same⟩ := starts
  refine ⟨rest, ?_⟩
  rw [← List.drop_drop, ← same, List.append_assoc, List.drop_left]

/-- A part that is not empty ends within the data. -/
theorem StartsAt.inside {part data : List UInt8} {start : Nat} (starts : StartsAt part data start)
    (nonempty : 0 < part.length) : start + part.length ≤ data.length := by
  have bound := List.IsPrefix.length_le starts
  rw [List.length_drop] at bound
  omega

/-! ### Reading parts -/

section Parts

variable {data : List UInt8} {index offset : Nat}

theorem wordOf_eq {word : List UInt8} (size : word.length = 32)
    (starts : StartsAt word data (32 * index)) : wordOf data index = word :=
  starts.bytesAt_eq size

theorem numberAt_of_startsAt {number : Nat} (fits : number < 2 ^ 256)
    (starts : StartsAt (wordOfNumber number) data (32 * index)) : numberAt data index = number := by
  rw [numberAt, wordOf_eq (length_wordOfNumber number) starts, bigEndian_wordOfNumber fits]

theorem address_of_startsAt {bytes : List UInt8} (size : bytes.length = 20)
    (starts : StartsAt (List.replicate 12 0 ++ bytes) data (32 * index)) :
    Padded data index ∧ addressAt data index = bytes := by
  have whole : (List.replicate 12 0 ++ bytes).length = 32 := by
    rw [List.length_append, List.length_replicate, size]
  rw [Padded, addressAt, wordOf_eq whole starts]
  exact ⟨List.take_left' List.length_replicate, List.drop_left' List.length_replicate⟩

/-- A byte string with its length is found by an offset in a word. -/
theorem payloadAt_of_startsAt {bytes : List UInt8}
    (fits : offset + (Argument.withLength bytes).length < 2 ^ 256)
    (word : StartsAt (wordOfNumber offset) data (32 * index))
    (tail : StartsAt (Argument.withLength bytes) data offset) :
    Contained data index ∧ payloadAt data index = bytes := by
  have size := Argument.length_withLength bytes
  have inside := tail.inside (by omega)
  have offsetAt : numberAt data index = offset := numberAt_of_startsAt (by omega) word
  have length : lengthAt data index = bytes.length := by
    have lengthWord := tail.left.left.bytesAt_eq (length_wordOfNumber bytes.length)
    rw [lengthAt, offsetAt, lengthWord, bigEndian_wordOfNumber (by omega)]
  have content := tail.left.right
  rw [length_wordOfNumber] at content
  unfold Contained payloadAt
  rw [offsetAt, length]
  exact ⟨by omega, content.bytesAt_eq rfl⟩

end Parts

end BallotWatch.Abi
