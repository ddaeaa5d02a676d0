/-
This file proves that the calendar and the clock show every point in time in a way of its own. The
days since the start of 1970 can be counted back from a date by the rule of leap years alone, so no
two days have one date; and the numbers of a date and of a time of day stand between separators, so
that no two points in time are written alike.
-/

import BallotWatch.Proofs.Text.Separator

namespace BallotWatch.Instant

attribute [ext] Date

/-! ### Dates and days -/

/-- The days before a year that starts in March, counted from that of the year zero: every fourth
year has a leap day at its end, save for the hundredth but not the four hundredth. -/
def daysBefore (year : Int) : Int :=
  365 * year + year / 4 - year / 100 + year / 400

/-- The days before a month of such a year. -/
def daysBeforeMonth (month : Int) : Int :=
  (153 * month + 2) / 5

/-- The days from the start of 1970 to a date. -/
def Date.toDays (date : Date) : Int :=
  let (year, month) :=
    if 2 < date.month then (date.year, date.month - 3) else (date.year - 1, date.month + 9)
  daysBefore year + daysBeforeMonth month + date.day - 1 - 719468

/-- Within a span of 400 years, the year that a day falls into and the day of that year. -/
theorem yearOfSpan_bounds {day : Int} (nonneg : 0 ≤ day) (within : day < 146097) :
    let year := (day - day / 1460 + day / 36524 - day / 146096) / 365
    let dayOfYear := day - (365 * year + year / 4 - year / 100)
    (0 ≤ year ∧ year < 400) ∧ 0 ≤ dayOfYear ∧ dayOfYear < 366 := by
  intro year dayOfYear
  -- Once the century and the leap years before are settled, what is left is linear.
  have century : year / 100 = 0 ∨ year / 100 = 1 ∨ year / 100 = 2 ∨ year / 100 = 3 := by omega
  have leapYears : year / 4 = day / 1460 ∨ year / 4 = day / 1460 - 1 := by omega
  simp only [dayOfYear]
  rcases century with same | same | same | same <;> rcases leapYears with leap | leap <;> omega

/-- The calendar repeats after 400 years. -/
theorem daysBefore_add {year : Int} (nonneg : 0 ≤ year) (within : year < 400) (span : Int) :
    daysBefore (year + 400 * span) = 365 * year + year / 4 - year / 100 + 146097 * span := by
  unfold daysBefore
  omega

/-- Every day has a year that starts in March, a month and a day of the month, from which it is
counted back, and the date says which they are. -/
theorem ofDays_eq (days : Int) :
    ∃ year month day, (0 ≤ month ∧ month ≤ 11) ∧ (1 ≤ day ∧ daysBeforeMonth month + day ≤ 366) ∧
      daysBefore year + daysBeforeMonth month + day - 1 = days + 719468 ∧
      Date.ofDays days =
        if month < 10 then ⟨year, month + 3, day⟩ else ⟨year + 1, month - 9, day⟩ := by
  unfold Date.ofDays
  extract_lets shifted span dayOfSpan yearOfSpan dayOfYear month day calendarMonth year
  obtain ⟨⟨yearNonneg, yearWithin⟩, dayNonneg, dayWithin⟩ :
      (0 ≤ yearOfSpan ∧ yearOfSpan < 400) ∧ 0 ≤ dayOfYear ∧ dayOfYear < 366 :=
    yearOfSpan_bounds (by omega) (by omega)
  have whole : 146097 * span + dayOfSpan = days + 719468 := Int.mul_ediv_add_emod _ _
  have counted : daysBefore (yearOfSpan + 400 * span) + dayOfYear = days + 719468 := by
    have parts : dayOfYear = dayOfSpan - (365 * yearOfSpan + yearOfSpan / 4 - yearOfSpan / 100) :=
      rfl
    rw [daysBefore_add yearNonneg yearWithin]
    clear_value dayOfYear yearOfSpan dayOfSpan span
    omega
  have dayIs : day = dayOfYear - daysBeforeMonth month + 1 := rfl
  have bounds : (0 ≤ month ∧ month ≤ 11) ∧ daysBeforeMonth month ≤ dayOfYear := by
    unfold month daysBeforeMonth
    clear_value dayOfYear
    omega
  refine ⟨yearOfSpan + 400 * span, month, day, bounds.1, by omega, by omega, ?_⟩
  clear_value month day
  by_cases early : month < 10
  · have inYear : ¬month + 3 ≤ 2 := by omega
    simp only [year, calendarMonth, if_pos early, if_neg inYear, add_zero]
  · have inNext : month - 9 ≤ 2 := by omega
    simp only [year, calendarMonth, if_neg early, if_pos inNext]

/-- From the date of a day the day is counted back. -/
theorem toDays_ofDays (days : Int) : (Date.ofDays days).toDays = days := by
  obtain ⟨year, month, day, monthBounds, -, counted, date⟩ := ofDays_eq days
  rw [date]
  by_cases early : month < 10
  · have inYear : 2 < month + 3 := by omega
    simp only [if_pos early, Date.toDays, if_pos inYear, Int.add_sub_cancel]
    omega
  · have inNext : ¬2 < month - 9 := by omega
    simp only [if_neg early, Date.toDays, if_neg inNext, Int.add_sub_cancel, Int.sub_add_cancel]
    omega

/-- No two days have one date. -/
theorem ofDays_injective : Function.Injective Date.ofDays :=
  Function.LeftInverse.injective toDays_ofDays

/-- The numbers of a date in the calendar have no minus. -/
theorem ofDays_nonneg {days : Int} (inCalendar : -719162 ≤ days) :
    0 ≤ (Date.ofDays days).year ∧ 0 ≤ (Date.ofDays days).month ∧ 0 ≤ (Date.ofDays days).day := by
  obtain ⟨year, month, day, monthBounds, dayBounds, counted, date⟩ := ofDays_eq days
  have yearNonneg : 0 ≤ year := by
    unfold daysBefore at counted
    omega
  rw [date]
  split
  · exact ⟨yearNonneg, by dsimp only; omega, by dsimp only; omega⟩
  · exact ⟨by dsimp only; omega, by dsimp only; omega, by dsimp only; omega⟩

/-! ### Points in time as they are written -/

section Written

variable (instant : Instant)

theorem toList_date :
    let date := Date.ofDays (instant.seconds / 86400)
    instant.date.toList = (padded 4 date.year).toList ++
      '-' :: ((padded 2 date.month).toList ++ '-' :: (padded 2 date.day).toList) := by
  intro date
  have mark : "-".toList = ['-'] := rfl
  have parts : instant.date =
      padded 4 date.year ++ "-" ++ padded 2 date.month ++ "-" ++ padded 2 date.day := rfl
  rw [parts]
  simp only [String.toList_append, mark, List.append_assoc, List.cons_append, List.nil_append]

theorem toList_timeOfDay :
    let second := instant.seconds % 86400
    instant.timeOfDay.toList = (padded 2 (second / 3600)).toList ++
      ':' :: ((padded 2 (second / 60 % 60)).toList ++ ':' :: (padded 2 (second % 60)).toList) := by
  intro second
  have mark : ":".toList = [':'] := rfl
  have parts : instant.timeOfDay =
      padded 2 (second / 3600) ++ ":" ++ padded 2 (second / 60 % 60) ++ ":" ++
        padded 2 (second % 60) := rfl
  rw [parts]
  simp only [String.toList_append, mark, List.append_assoc, List.cons_append, List.nil_append]

theorem toList_written :
    instant.written.toList =
      instant.date.toList ++ 'T' :: (instant.timeOfDay.toList ++ "+00:00".toList) := by
  have mark : "T".toList = ['T'] := rfl
  have parts : instant.written = instant.date ++ "T" ++ instant.timeOfDay ++ "+00:00" := rfl
  rw [parts]
  simp only [String.toList_append, mark, List.append_assoc, List.cons_append, List.nil_append]

variable {c : Char} (noDigit : c.isDigit = false)

include noDigit

theorem not_mem_date (noDash : c ≠ '-') : c ∉ instant.date.toList := by
  rw [toList_date]
  simp only [List.mem_append, List.mem_cons, not_or]
  exact ⟨not_mem_padded noDigit, noDash, not_mem_padded noDigit, noDash, not_mem_padded noDigit⟩

theorem not_mem_timeOfDay (noColon : c ≠ ':') : c ∉ instant.timeOfDay.toList := by
  rw [toList_timeOfDay]
  simp only [List.mem_append, List.mem_cons, not_or]
  exact ⟨not_mem_padded noDigit, noColon, not_mem_padded noDigit, noColon, not_mem_padded noDigit⟩

end Written

theorem newline_not_mem_written (instant : Instant) : '\n' ∉ instant.written.toList := by
  rw [toList_written]
  simp only [List.mem_append, List.mem_cons, not_or]
  exact ⟨not_mem_date instant rfl (by decide), by decide, not_mem_timeOfDay instant rfl (by decide),
    by decide⟩

variable {first second : Instant}

/-- Points in time with one date lie on one day. -/
theorem day_of_date (same : first.date.toList = second.date.toList) :
    first.seconds / 86400 = second.seconds / 86400 := by
  have bound (moment : Instant) : -719162 ≤ moment.seconds / 86400 := by
    have inCalendar := moment.inCalendar
    omega
  obtain ⟨year, month, day⟩ := ofDays_nonneg (bound first)
  obtain ⟨otherYear, otherMonth, otherDay⟩ := ofDays_nonneg (bound second)
  rw [toList_date, toList_date] at same
  obtain ⟨years, same⟩ :=
    Text.append_cons_injective (not_mem_padded rfl) (not_mem_padded rfl) same
  obtain ⟨months, days⟩ :=
    Text.append_cons_injective (not_mem_padded rfl) (not_mem_padded rfl) same
  exact ofDays_injective (Date.ext (padded_injective year otherYear years)
    (padded_injective month otherMonth months) (padded_injective day otherDay days))

/-- Points in time that the clock shows alike lie at one second of their days. -/
theorem second_of_timeOfDay (same : first.timeOfDay.toList = second.timeOfDay.toList) :
    first.seconds % 86400 = second.seconds % 86400 := by
  rw [toList_timeOfDay, toList_timeOfDay] at same
  obtain ⟨hours, same⟩ :=
    Text.append_cons_injective (not_mem_padded rfl) (not_mem_padded rfl) same
  obtain ⟨minutes, seconds⟩ :=
    Text.append_cons_injective (not_mem_padded rfl) (not_mem_padded rfl) same
  have hour := padded_injective (by omega) (by omega) hours
  have minute := padded_injective (by omega) (by omega) minutes
  have second := padded_injective (by omega) (by omega) seconds
  omega

/-- No two points in time are written alike. -/
theorem written_injective : Function.Injective written := by
  intro first second same
  have texts := congrArg String.toList same
  rw [toList_written, toList_written] at texts
  obtain ⟨dates, times⟩ := Text.append_cons_injective (not_mem_date first rfl (by decide))
    (not_mem_date second rfl (by decide)) texts
  have sameDay := day_of_date dates
  have sameSecond := second_of_timeOfDay (List.append_cancel_right times)
  have seconds : first.seconds = second.seconds := by omega
  obtain ⟨_, _⟩ := first
  obtain rfl : _ = second.seconds := seconds
  rfl

end BallotWatch.Instant
