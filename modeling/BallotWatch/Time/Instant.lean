/-
This file holds points in time, to the second and in universal time, and writes them as
calendar dates. They reach from the first second of the year one to the last of the year 9999.
-/

namespace BallotWatch

/-- A point in time: the seconds since the start of 1970. -/
structure Instant where
  seconds : Int
  inCalendar : -62135596800 ≤ seconds ∧ seconds ≤ 253402300799
  deriving DecidableEq, Repr

namespace Instant

/-- The start of 1970. -/
def epoch : Instant :=
  ⟨0, by decide⟩

instance : Inhabited Instant := ⟨epoch⟩

/-- The point in time a number of seconds after the start of 1970, if the calendar reaches
it. -/
def ofSeconds? (seconds : Int) : Option Instant :=
  if inCalendar : -62135596800 ≤ seconds ∧ seconds ≤ 253402300799 then
    some ⟨seconds, inCalendar⟩
  else none

/-! ### The calendar -/

/-- A day of the calendar. -/
structure Date where
  year : Int
  month : Int
  day : Int
  deriving DecidableEq, Repr

/-- The date a number of days after the start of 1970. Years are counted from March, so that
the leap day ends a year, and in spans of 400 years, after which the calendar repeats. -/
def Date.ofDays (days : Int) : Date :=
  let shifted := days + 719468
  let span := shifted / 146097
  let dayOfSpan := shifted % 146097
  let yearOfSpan :=
    (dayOfSpan - dayOfSpan / 1460 + dayOfSpan / 36524 - dayOfSpan / 146096) / 365
  let dayOfYear := dayOfSpan - (365 * yearOfSpan + yearOfSpan / 4 - yearOfSpan / 100)
  let monthFromMarch := (5 * dayOfYear + 2) / 153
  let day := dayOfYear - (153 * monthFromMarch + 2) / 5 + 1
  let month := if monthFromMarch < 10 then monthFromMarch + 3 else monthFromMarch - 9
  let year := yearOfSpan + 400 * span + (if month ≤ 2 then 1 else 0)
  ⟨year, month, day⟩

/-- A number filled up with zeros to a width. -/
def padded (width : Nat) (number : Int) : String :=
  let digits := toString number.natAbs
  String.ofList (List.replicate (width - digits.length) '0') ++ digits

/-- The date of a point in time. -/
def date (instant : Instant) : String :=
  let date := Date.ofDays (instant.seconds / 86400)
  s!"{padded 4 date.year}-{padded 2 date.month}-{padded 2 date.day}"

/-- The time of day of a point in time. -/
def timeOfDay (instant : Instant) : String :=
  let second := instant.seconds % 86400
  s!"{padded 2 (second / 3600)}:{padded 2 (second / 60 % 60)}:{padded 2 (second % 60)}"

/-- Date, time of day and offset of a point in time. -/
def written (instant : Instant) : String :=
  s!"{instant.date}T{instant.timeOfDay}+00:00"

end Instant

end BallotWatch
