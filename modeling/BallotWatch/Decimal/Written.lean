/-
This file writes numbers of the 64-bit binary format as text: with the fewest digits that read
back, or with one decimal place.

In the shortest form a number from a ten-thousandth up to, but not including, ten to the power
of sixteen is written positionally and always shows a point. Any other has an exponent with a
sign and at least two digits.
-/

import BallotWatch.Decimal.Shortest

namespace BallotWatch.Decimal

/-! ### The shortest form -/

/-- Digits with the point after the given count of them, filled up with zeros on either
side. -/
def positional (digits : String) (before : Int) : String :=
  let count : Int := digits.length
  let zeros (number : Int) : String := String.ofList (List.replicate number.toNat '0')
  if before ≤ 0 then "0." ++ zeros (-before) ++ digits
  else if before ≥ count then digits ++ zeros (before - count) ++ ".0"
  else
    String.ofList (digits.toList.take before.toNat) ++ "." ++
      String.ofList (digits.toList.drop before.toNat)

/-- One digit before the point, the others after it, and the exponent of ten. -/
def scientific (digits : String) (exponent : Int) : String :=
  let mantissa :=
    match digits.toList with
    | [] => "0"
    | [digit] => String.ofList [digit]
    | digit :: rest => String.ofList (digit :: '.' :: rest)
  let size := toString exponent.natAbs
  let padded := if size.length < 2 then "0" ++ size else size
  mantissa ++ (if exponent < 0 then "e-" else "e+") ++ padded

/-- The shortest text that reads back as the number. -/
def Binary.written : Binary → String
  | .notANumber => "nan"
  | .infinite negative => if negative then "-inf" else "inf"
  | .finite negative significand exponent =>
    let sign := if negative then "-" else ""
    if significand = 0 then sign ++ "0.0"
    else
      let decimal := shortest significand exponent
      let digits := toString decimal.digits
      let before : Int := digits.length + decimal.power
      if -4 < before ∧ before ≤ 16 then sign ++ positional digits before
      else sign ++ scientific digits (before - 1)

/-! ### One decimal place -/

/-- The number to one decimal place; the exact value decides, and a half goes to the even
neighbour. -/
def Binary.toTenths : Binary → String
  | .notANumber => "nan"
  | .infinite negative => if negative then "-inf" else "inf"
  | .finite negative significand exponent =>
    let (numerator, denominator) := scaleDown (10 * significand) 1 (-exponent)
    let tenths := nearestWhole numerator denominator
    let sign := if negative then "-" else ""
    s!"{sign}{tenths / 10}.{tenths % 10}"

end BallotWatch.Decimal
