/-
This file says which numbers can be written as decimal numerals: those below the power of ten that
has more digits than a numeral may have.
-/

import BallotWatch.Text.Numeral
import Mathlib.Algebra.Group.Nat.Defs

namespace BallotWatch.Text.Numeral

/-- Counting off digits one by one, as is done to avoid writing the number, comes to a power of ten.
-/
theorem fits_iff {digits number : Nat} : fits digits number = true ↔ number < 10 ^ digits := by
  induction digits generalizing number with
  | zero => rw [fits, beq_iff_eq, pow_zero, Nat.lt_one_iff]
  | succ digits inductionHypothesis =>
    rw [fits, Bool.or_eq_true, beq_iff_eq, inductionHypothesis, Nat.div_lt_iff_lt_mul (by decide),
      pow_succ]
    have positive : 0 < 10 ^ digits * 10 := Nat.mul_pos (Nat.pow_pos (by decide)) (by decide)
    omega

/-- A number can be written exactly if it lies below that power, whatever its sign. -/
theorem isWritable_iff {number : Int} :
    isWritable number = true ↔ number.natAbs < 10 ^ digitLimit :=
  fits_iff

theorem isWritable_of_lt {number : Int} {digits : Nat} (few : digits ≤ digitLimit)
    (small : number.natAbs < 10 ^ digits) : isWritable number = true :=
  isWritable_iff.mpr (Nat.lt_of_lt_of_le small (Nat.pow_le_pow_right (by decide) few))

theorem not_isWritable_of_le {number : Nat} (great : 10 ^ digitLimit ≤ number) :
    ¬isWritable number = true := by
  rw [isWritable_iff, Int.natAbs_natCast]
  exact Nat.not_lt_of_le great

end BallotWatch.Text.Numeral
