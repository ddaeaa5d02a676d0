/-
This file holds the numbers of the 64-bit binary format: a significand of up to 53 bits times
a power of two, the two infinities, and the value that is no number. A fraction is rounded to
the nearest of them, and of two equally near ones to that with the even significand.
-/

namespace BallotWatch.Decimal

/-- Two to the power of `exponent`. -/
def powerOfTwo (exponent : Nat) : Nat :=
  Nat.pow 2 exponent

/-- Ten to the power of `exponent`. -/
def powerOfTen (exponent : Nat) : Nat :=
  Nat.pow 10 exponent

/-- A number of the 64-bit binary format. A finite one is its significand times two to the
power of its exponent. -/
inductive Binary
  | finite (negative : Bool) (significand : Nat) (exponent : Int)
  | infinite (negative : Bool)
  | notANumber
  deriving DecidableEq, Repr, Inhabited

namespace Binary

/-- The least exponent of the format. -/
def leastExponent : Int :=
  -1074

/-- The greatest exponent of the format. -/
def greatestExponent : Int :=
  971

/-- The least significand of full length. -/
def leastFull : Nat :=
  powerOfTwo 52

/-- The fraction `numerator / denominator` divided by a power of two, as a fraction. -/
def scaleDown (numerator denominator : Nat) (exponent : Int) : Nat × Nat :=
  if exponent ≥ 0 then (numerator, denominator * powerOfTwo exponent.toNat)
  else (numerator * powerOfTwo (-exponent).toNat, denominator)

/-- The whole number nearest to a fraction, the even one of two equally near. -/
def nearestWhole (numerator denominator : Nat) : Nat :=
  let whole := numerator / denominator
  let twice := 2 * (numerator % denominator)
  if twice > denominator ∨ (twice = denominator ∧ whole % 2 = 1) then whole + 1 else whole

/-- The number nearest to a fraction with a positive denominator. -/
def ofFraction (negative : Bool) (numerator denominator : Nat) : Binary :=
  if numerator = 0 then finite negative 0 leastExponent
  else
    let guess : Int := (Nat.log2 numerator : Int) - Nat.log2 denominator - 52
    let (scaled, unit) := scaleDown numerator denominator guess
    let exponent := max (if scaled / unit < leastFull then guess - 1 else guess) leastExponent
    let (scaled, unit) := scaleDown numerator denominator exponent
    let significand := nearestWhole scaled unit
    let (significand, exponent) :=
      if significand = 2 * leastFull then (leastFull, exponent + 1) else (significand, exponent)
    if exponent > greatestExponent then infinite negative
    else finite negative significand exponent

/-- The number nearest to a whole number. -/
def ofInt (number : Int) : Binary :=
  ofFraction (decide (number < 0)) number.natAbs 1

/-- The number nearest to `digits` times a power of ten. Powers far beyond the format's range
are settled by their size alone. -/
def ofDecimal (negative : Bool) (digits : Nat) (power : Int) : Binary :=
  let size : Int := power + Nat.log2 (digits + 1) + 1
  if digits = 0 then finite negative 0 leastExponent
  else if power > 400 then infinite negative
  else if size < -400 then finite negative 0 leastExponent
  else if power ≥ 0 then ofFraction negative (digits * powerOfTen power.toNat) 1
  else ofFraction negative digits (powerOfTen (-power).toNat)

/-- Whether a number is zero or below. What is no number is not. -/
def isAtMostZero : Binary → Bool
  | finite negative significand _ => negative || significand == 0
  | infinite negative => negative
  | notANumber => false

end Binary

end BallotWatch.Decimal
