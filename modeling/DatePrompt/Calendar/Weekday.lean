import DatePrompt.Calendar.Iso

/-!
# Weekdays

Days are numbered from the first day of the calendar, a Monday, so the weekday follows from the
number of days before a date. The latest day of a given weekday is found by going back from a
reference as many days as the two weekdays are apart.
-/

namespace DatePrompt.Date

/-- The days of the years before a year. -/
def daysBeforeYear (year : Int) : Int :=
  let y := year - 1
  365 * y + y / 4 - y / 100 + y / 400

/-- The days of the first `n` months of a year. -/
def daysOfMonths (year : Int) : Nat → Int
  | 0 => 0
  | n + 1 => daysOfMonths year n + monthLength year (n + 1)

/-- The number of a day, the first day of the calendar being number 0. -/
def number (d : Date) : Int :=
  daysBeforeYear d.year + daysOfMonths d.year (d.month - 1).toNat + (d.day - 1)

/-- The day of the week, from 1 for Monday to 7 for Sunday. -/
def weekday (d : Date) : Int := d.number % 7 + 1

theorem weekday_bounds (d : Date) : 1 ≤ d.weekday ∧ d.weekday ≤ 7 := by
  unfold weekday; omega

theorem weekday_first : first.weekday = 1 := by decide

/-- The day before, if the calendar reaches that far. -/
def previous? (d : Date) : Option Date :=
  if 1 < d.day then ofParts? d.year d.month (d.day - 1)
  else if 1 < d.month then ofParts? d.year (d.month - 1) (monthLength d.year (d.month - 1))
  else ofParts? (d.year - 1) 12 31

/-- The date a number of days before. -/
def daysBefore? : Nat → Date → Option Date
  | 0, d => some d
  | n + 1, d => d.previous?.bind (daysBefore? n)

end DatePrompt.Date

namespace DatePrompt

/-- Why no day of the weekday was found. -/
inductive WeekdayError
  | outside (weekday : Int)
  | noneBefore (weekday : Int) (reference : Date)
  deriving DecidableEq

def WeekdayError.message : WeekdayError → String
  | .outside w =>
    if Writable w then s!"ISO weekday must be between 1 and 7, got {w}" else tooLong
  | .noneBefore w reference => s!"No weekday {w} on or before {reference.iso}"

/-- The latest date of that weekday on or before the reference. -/
def latestWeekday (weekday : Int) (reference : Date) : Except WeekdayError Date :=
  if 1 ≤ weekday ∧ weekday ≤ 7 then
    match reference.daysBefore? ((reference.weekday - weekday) % 7).toNat with
    | some d => .ok d
    | none => .error (.noneBefore weekday reference)
  else .error (.outside weekday)

end DatePrompt
