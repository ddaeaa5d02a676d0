/-
This file proves that numbers and byte strings in hexadecimal are read back as they were written,
whichever of their digits are capitals. The digits of a byte string are read two at a time.
-/

import BallotWatch.Node.Quantity
import BallotWatch.Proofs.Text.Hexadecimal

namespace BallotWatch

open Text

/-! ### Byte strings -/

/-- The digits of bytes, whichever of them are capitals, are read as the bytes. -/
theorem Bytes.ofHexDigits?_recased {text : List Char} {bytes : List UInt8}
    (recased : List.Forall₂ (fun c small => c = small ∨ c = small.toUpper) text
      (toHexDigits bytes)) : ofHexDigits? text = some bytes := by
  induction bytes generalizing text with
  | nil =>
    obtain rfl := List.forall₂_nil_right_iff.mp recased
    rfl
  | cons byte rest inductionHypothesis =>
    obtain ⟨high, _, isHigh, behindHigh, rfl⟩ := List.forall₂_cons_right_iff.mp recased
    obtain ⟨low, behind, isLow, others, rfl⟩ := List.forall₂_cons_right_iff.mp behindHigh
    have bound : byte.toNat < 256 := byte.toNat_lt
    have highDigit := isDigitOf_recased (by omega) isHigh
    have lowDigit := isDigitOf_recased (by omega) isLow
    have whole : UInt8.ofNat (byte.toNat / 16 * 16 + byte.toNat % 16) = byte := by
      rw [Nat.div_add_mod', UInt8.ofNat_toNat]
    rw [ofHexDigits?, highDigit.isAsciiBlank, if_neg Bool.false_ne_true]
    simp only [highDigit.asciiHexDigit?, lowDigit.asciiHexDigit?, inductionHypothesis others,
      Option.map_some, whole]

/-! ### Texts behind the mark -/

namespace Node

/-- A text that has the characters of an original or their capitals, behind the same mark of
hexadecimal. -/
def RecasedBehindMark (text original : String) : Prop :=
  ∃ digits originalDigits, text = "0x" ++ digits ∧ original = "0x" ++ originalDigits ∧
    Recased digits originalDigits

theorem RecasedBehindMark.refl {original digits : String} (marked : original = "0x" ++ digits) :
    RecasedBehindMark original original :=
  ⟨digits, digits, marked, marked, Recased.refl digits⟩

theorem afterMark?_marked (digits : String) :
    afterMark? (.str ("0x" ++ digits : String)) = some digits.toList := by
  have chars : (SymbolText.ofString ("0x" ++ digits)).chars = '0' :: 'x' :: digits.toList := by
    rw [SymbolText.chars_ofString, String.toList_append]
    rfl
  unfold afterMark?
  simp only [chars]

/-- A number that is not below zero is written as its hexadecimal digits behind the mark. -/
theorem writtenQuantity_of_nonneg {number : Int} (nonneg : 0 ≤ number) :
    writtenQuantity number = "0x" ++ String.ofList (Nat.toDigits 16 number.toNat) := by
  obtain ⟨natural, rfl⟩ := Int.eq_ofNat_of_zero_le nonneg
  rw [writtenQuantity, if_neg (Int.not_lt.mpr nonneg)]
  rfl

theorem RecasedBehindMark.exists_digits {text originalDigits : String}
    (recased : RecasedBehindMark text ("0x" ++ originalDigits)) :
    ∃ digits, text = "0x" ++ digits ∧ Recased digits originalDigits := by
  obtain ⟨digits, others, marked, original, recased⟩ := recased
  have same := congrArg String.toList original
  rw [String.toList_append, String.toList_append] at same
  rw [← String.toList_injective (List.append_cancel_left same)] at recased
  exact ⟨digits, marked, recased⟩

/-- A number is read back as it was written, whichever of its digits are capitals. -/
theorem quantity_recased {number : Int} (nonneg : 0 ≤ number) {text : String}
    (recased : RecasedBehindMark text (writtenQuantity number)) (field : String) :
    quantity (.str text) field = .ok number.toNat := by
  rw [writtenQuantity_of_nonneg nonneg] at recased
  obtain ⟨digits, rfl, letters⟩ := recased.exists_digits
  unfold Recased at letters
  rw [String.toList_ofList] at letters
  rw [quantity, afterMark?_marked]
  simp only [Numeral.hexadecimal?_recased letters]

/-- A byte string is read back as it was written, whichever of its digits are capitals. -/
theorem data_recased {bytes : List UInt8} {text : String}
    (recased : RecasedBehindMark text (Bytes.toMarkedHex bytes)) :
    data (.str text) = .ok bytes := by
  obtain ⟨digits, rfl, letters⟩ := recased.exists_digits
  unfold Recased at letters
  rw [Bytes.toHex, String.toList_ofList] at letters
  simp only [data, afterMark?_marked, Bytes.ofHexDigits?_recased letters]

end Node

end BallotWatch
