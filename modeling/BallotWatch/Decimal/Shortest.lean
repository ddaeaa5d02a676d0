/-
This file finds the fewest decimal digits that read back as a given number of the 64-bit
binary format, and the nearest to it among those.

All decimals between the halfway points to the two neighbours read back as the number; the
halfway points themselves do when the significand is even. On the grid of decimals with a
given count of digits, if any point lies there then one of the two grid points around the
number does. So the counts 1, 2, ... are tried in turn with these two points each.
-/

import BallotWatch.Decimal.Binary

namespace BallotWatch.Decimal

/-! ### The decimals that read back -/

/-- A positive number in quarters of its last binary place, with the bounds of the decimals
that read back as it. The true number is `quarters * 2 ^ exponent`. -/
structure Span where
  lower : Nat
  quarters : Nat
  upper : Nat
  exponent : Int
  closed : Bool

/-- The span of a positive significand and exponent. Below a power of two the neighbours lie
half as far apart. -/
def Span.of (significand : Nat) (exponent : Int) : Span :=
  let narrow := significand == Binary.leastFull && decide (exponent > Binary.leastExponent)
  { lower := 4 * significand - (if narrow then 1 else 2)
    quarters := 4 * significand
    upper := 4 * significand + 2
    exponent := exponent - 2
    closed := significand % 2 == 0 }

/-- The fraction by which quarters become units of a power of ten. -/
def Span.unitsPerQuarter (span : Span) (power : Int) : Nat × Nat :=
  let (numerator, denominator) := Binary.scaleDown 1 1 (-span.exponent)
  if power ≥ 0 then (numerator, denominator * powerOfTen power.toNat)
  else (numerator * powerOfTen (-power).toNat, denominator)

/-- Whether `digits` times a power of ten, in units of that power, reads back. -/
def Span.reads (span : Span) (power : Int) (digits : Nat) : Bool :=
  let (numerator, denominator) := span.unitsPerQuarter power
  let scaled := digits * denominator
  let low := span.lower * numerator
  let high := span.upper * numerator
  if span.closed then decide (low ≤ scaled ∧ scaled ≤ high)
  else decide (low < scaled ∧ scaled < high)

/-! ### The shortest of them -/

/-- A decimal: digits times a power of ten. -/
structure Digits where
  digits : Nat
  power : Int
  deriving DecidableEq, Repr

/-- Of the two grid points around the number, the one that reads back; of two that do, the
nearer, and of two equally near the even one. -/
def Span.onGrid? (span : Span) (power : Int) : Option Digits :=
  let (numerator, denominator) := span.unitsPerQuarter power
  let exact := span.quarters * numerator
  let below := exact / denominator
  let above := below + 1
  let nearer :=
    let twice := 2 * (exact % denominator)
    if twice < denominator ∨ (twice = denominator ∧ below % 2 = 0) then below else above
  match span.reads power below, span.reads power above with
  | true, true => some ⟨nearer, power⟩
  | true, false => some ⟨below, power⟩
  | false, true => some ⟨above, power⟩
  | false, false => none

/-- The power of ten at or below the number: the greatest one for which at least one unit
fits. The guess from the binary logarithm is too small by at most two. -/
def Span.magnitude (span : Span) : Int :=
  let guess := ((Nat.log2 span.quarters + span.exponent) * 30103).fdiv 100000 - 1
  let fits (power : Int) : Bool :=
    let (numerator, denominator) := span.unitsPerQuarter power
    decide (denominator ≤ span.quarters * numerator)
  if fits (guess + 2) then guess + 2 else if fits (guess + 1) then guess + 1 else guess

/-- Leaves out the zeros at the end of the digits. -/
def Digits.stripped (decimal : Digits) : Nat → Digits
  | 0 => decimal
  | fuel + 1 =>
    if decimal.digits % 10 = 0 ∧ decimal.digits ≠ 0 then
      stripped ⟨decimal.digits / 10, decimal.power + 1⟩ fuel
    else decimal

/-- The shortest decimal that reads back as a positive number. Seventeen digits always do. -/
def shortest (significand : Nat) (exponent : Int) : Digits :=
  let span := Span.of significand exponent
  let magnitude := span.magnitude
  let found := (List.range 17).findSome? fun (place : Nat) =>
    span.onGrid? (magnitude - place)
  (found.getD ⟨0, 0⟩).stripped 20

end BallotWatch.Decimal
