/-
This file says where texts that stand one behind another can be told apart. A separator that occurs
in neither of two texts ends both at the same place. Numerals hold nothing but digits and a sign, so
every other character separates them, and zeros in front of a numeral leave its number.
-/

import BallotWatch.Time.Instant
import Mathlib

namespace BallotWatch

namespace Text

/-- A separator that stands in neither of two texts ends both at the same place. -/
theorem append_cons_injective {separator : Char} {first second rest others : List Char}
    (absent : separator ∉ first) (alsoAbsent : separator ∉ second)
    (same : first ++ separator :: rest = second ++ separator :: others) :
    first = second ∧ rest = others := by
  induction first generalizing second with
  | nil =>
    cases second with
    | nil => exact ⟨rfl, (List.cons.inj same).2⟩
    | cons c more =>
      obtain rfl : separator = c := (List.cons.inj same).1
      exact absurd List.mem_cons_self alsoAbsent
  | cons c more inductionHypothesis =>
    cases second with
    | nil =>
      obtain rfl : c = separator := (List.cons.inj same).1
      exact absurd List.mem_cons_self absent
    | cons d later =>
      obtain ⟨rfl, behind⟩ := List.cons.inj same
      obtain ⟨rfl, rfl⟩ := inductionHypothesis (fun among => absent (List.mem_cons_of_mem c among))
        (fun among => alsoAbsent (List.mem_cons_of_mem c among)) behind
      exact ⟨rfl, rfl⟩

/-! ### Numerals -/

theorem isDigit_of_mem_toString {number : Nat} {c : Char} (among : c ∈ (toString number).toList) :
    c.isDigit = true := by
  rw [Nat.toString_eq_ofList_toDigits, String.toList_ofList] at among
  exact Nat.isDigit_of_mem_toDigits (by decide) (by decide) among

/-- Numerals hold digits and a sign, so every other character separates them. -/
theorem not_mem_toString {number : Int} {c : Char} (noDigit : c.isDigit = false)
    (noSign : c ≠ '-') : c ∉ (toString number).toList := by
  have notAmong (natural : Nat) : c ∉ (toString natural).toList := fun among => by
    rw [isDigit_of_mem_toString among] at noDigit
    cases noDigit
  cases number with
  | ofNat natural => exact notAmong natural
  | negSucc natural =>
    have negative : (toString (Int.negSucc natural)).toList =
        '-' :: (toString (natural + 1)).toList := String.toList_append
    rw [negative, List.mem_cons, not_or]
    exact ⟨noSign, notAmong (natural + 1)⟩

end Text

namespace Instant

variable {width : Nat} {number other : Int}

theorem toList_padded (width : Nat) (number : Int) :
    (padded width number).toList =
      List.replicate (width - (toString number.natAbs).length) '0' ++
        Nat.toDigits 10 number.natAbs := by
  rw [padded, String.toList_append, String.toList_ofList, Nat.toString_eq_ofList_toDigits,
    String.toList_ofList]

theorem not_mem_padded {c : Char} (noDigit : c.isDigit = false) :
    c ∉ (padded width number).toList := by
  have isDigit : ∀ d ∈ (padded width number).toList, d.isDigit = true := by
    intro d among
    rw [toList_padded, List.mem_append] at among
    rcases among with zero | digit
    · rw [List.eq_of_mem_replicate zero]
      rfl
    · exact Nat.isDigit_of_mem_toDigits (by decide) (by decide) digit
  intro among
  rw [isDigit c among] at noDigit
  cases noDigit

theorem ofDigitChars_padded (width : Nat) (number : Int) :
    Nat.ofDigitChars 10 (padded width number).toList 0 = number.natAbs := by
  rw [toList_padded, Nat.ofDigitChars_append, Nat.ofDigitChars_replicate_zero, Nat.mul_zero,
    Nat.ofDigitChars_ten_toDigits]

/-- Zeros in front do not hide a number. -/
theorem padded_injective (nonneg : 0 ≤ number) (otherNonneg : 0 ≤ other)
    (same : (padded width number).toList = (padded width other).toList) : number = other := by
  have digits := congrArg (Nat.ofDigitChars 10 · 0) same
  simp only [ofDigitChars_padded] at digits
  omega

end Instant

end BallotWatch
