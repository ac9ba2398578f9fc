/-!
# Calendar dates

The proleptic Gregorian calendar over the years 1 to 9999. Month lengths and the leap rule are
stated for every integer year, so that a date which does not exist can still be talked about;
`Date` holds only those that do.
-/

namespace DatePrompt

/-- Every fourth year is a leap year, save the centuries that 400 does not divide. -/
def IsLeap (year : Int) : Prop := year % 4 = 0 ∧ (year % 100 ≠ 0 ∨ year % 400 = 0)

instance : DecidablePred IsLeap := fun _ => by unfold IsLeap; infer_instance

/-- The number of days in a month, the month being counted from 1. -/
def monthLength (year month : Int) : Int :=
  if month = 2 then if IsLeap year then 29 else 28
  else if month = 4 ∨ month = 6 ∨ month = 9 ∨ month = 11 then 30
  else 31

theorem monthLength_bounds (year month : Int) :
    28 ≤ monthLength year month ∧ monthLength year month ≤ 31 := by
  unfold monthLength
  split
  · split <;> omega
  · split <;> omega

/-- A month number outside 1 to 12. -/
structure IllegalMonth where
  month : Int
  deriving DecidableEq, Repr

def IllegalMonth.message (e : IllegalMonth) : String :=
  s!"bad month number {e.month}; must be 1-12"

/-- The length of a month in any year, refused for a month that is none. -/
def legalMonthLength (year month : Int) : Except IllegalMonth Int :=
  if 1 ≤ month ∧ month ≤ 12 then .ok (monthLength year month) else .error ⟨month⟩

theorem legalMonthLength_eq_ok {year month : Int} (h : 1 ≤ month ∧ month ≤ 12) :
    legalMonthLength year month = .ok (monthLength year month) := if_pos h

/-- The first and the last year of the calendar. -/
def minYear : Int := 1
def maxYear : Int := 9999

/-- A year and a month that the calendar has. -/
def IsMonth (year month : Int) : Prop :=
  (minYear ≤ year ∧ year ≤ maxYear) ∧ 1 ≤ month ∧ month ≤ 12

/-- Three numbers that name a day of the calendar. -/
def ValidDate (year month day : Int) : Prop :=
  (minYear ≤ year ∧ year ≤ maxYear) ∧ (1 ≤ month ∧ month ≤ 12) ∧
    1 ≤ day ∧ day ≤ monthLength year month

instance (year month day : Int) : Decidable (ValidDate year month day) := by
  unfold ValidDate; infer_instance

/-- A day of the calendar. -/
structure Date where
  year : Int
  month : Int
  day : Int
  valid : ValidDate year month day
  deriving DecidableEq

namespace Date

theorem ext {a b : Date} (hy : a.year = b.year) (hm : a.month = b.month) (hd : a.day = b.day) :
    a = b := by
  cases a; cases b; cases hy; cases hm; cases hd; rfl

theorem year_bounds (d : Date) : 1 ≤ d.year ∧ d.year ≤ 9999 := d.valid.1
theorem month_bounds (d : Date) : 1 ≤ d.month ∧ d.month ≤ 12 := d.valid.2.1
theorem day_bounds (d : Date) : 1 ≤ d.day ∧ d.day ≤ 31 :=
  ⟨d.valid.2.2.1, Int.le_trans d.valid.2.2.2 (monthLength_bounds _ _).2⟩

/-- The date of that year, month and day, if there is one. -/
def ofParts? (year month day : Int) : Option Date :=
  if h : ValidDate year month day then some ⟨year, month, day, h⟩ else none

theorem ofParts?_eq_some {year month day : Int} {d : Date} :
    ofParts? year month day = some d ↔ d.year = year ∧ d.month = month ∧ d.day = day := by
  unfold ofParts?
  split
  · constructor
    · intro h; cases h; exact ⟨rfl, rfl, rfl⟩
    · rintro ⟨rfl, rfl, rfl⟩; rfl
  · rename_i h
    constructor
    · intro h'; cases h'
    · rintro ⟨rfl, rfl, rfl⟩; exact absurd d.valid h

theorem ofParts?_eq_none {year month day : Int} :
    ofParts? year month day = none ↔ ¬ ValidDate year month day := by
  unfold ofParts?; split <;> simp_all

theorem ofParts?_eq_none_of_lt {year month day : Int} (h : monthLength year month < day) :
    ofParts? year month day = none :=
  ofParts?_eq_none.mpr fun hvalid => Int.not_le.mpr h hvalid.2.2.2

theorem ofParts?_self (d : Date) : ofParts? d.year d.month d.day = some d :=
  ofParts?_eq_some.mpr ⟨rfl, rfl, rfl⟩

/-- The first and the last day of the calendar. -/
def first : Date := ⟨minYear, 1, 1, by decide⟩
def last : Date := ⟨maxYear, 12, 31, by decide⟩

end Date

/-- What the calendar was asked for and does not have: the length of a month that is none, or a
date. -/
inductive CalendarError
  | month (e : IllegalMonth)
  | date (year month day : Int)
  deriving DecidableEq

/-- The day of a month, if the month is long enough for it. -/
def dayOfMonth? (year month day : Int) : Except CalendarError (Option Date) :=
  match legalMonthLength year month with
  | .error e => .error (.month e)
  | .ok length =>
    if day ≤ length then
      match Date.ofParts? year month day with
      | some d => .ok (some d)
      | none => .error (.date year month day)
    else .ok none

theorem dayOfMonth?_eq {year month day : Int} (hmonth : IsMonth year month) (hday : 1 ≤ day) :
    dayOfMonth? year month day = .ok (Date.ofParts? year month day) := by
  rw [dayOfMonth?, legalMonthLength_eq_ok hmonth.2]
  by_cases hlength : day ≤ monthLength year month
  · obtain ⟨d, hd⟩ : ∃ d, Date.ofParts? year month day = some d :=
      ⟨⟨year, month, day, hmonth.1, hmonth.2, hday, hlength⟩,
        Date.ofParts?_eq_some.mpr ⟨rfl, rfl, rfl⟩⟩
    rw [hd]
    exact if_pos hlength
  · rw [Date.ofParts?_eq_none_of_lt (Int.not_le.mp hlength)]
    exact if_neg hlength

namespace Date

/-! ## Order -/

/-- Dates are ordered by year, then by month, then by day. -/
def Le (a b : Date) : Prop :=
  a.year < b.year ∨ a.year = b.year ∧
    (a.month < b.month ∨ a.month = b.month ∧ a.day ≤ b.day)

instance : LE Date := ⟨Le⟩

theorem le_def {a b : Date} : a ≤ b ↔ a.year < b.year ∨ a.year = b.year ∧
    (a.month < b.month ∨ a.month = b.month ∧ a.day ≤ b.day) := Iff.rfl

instance (a b : Date) : Decidable (a ≤ b) := by
  change Decidable (Le a b); unfold Le; infer_instance

theorem le_refl (a : Date) : a ≤ a := by simp [le_def]

theorem le_trans {a b c : Date} (h : a ≤ b) (h' : b ≤ c) : a ≤ c := by
  simp only [le_def] at *; omega

theorem le_antisymm {a b : Date} (h : a ≤ b) (h' : b ≤ a) : a = b := by
  simp only [le_def] at *
  exact ext (by omega) (by omega) (by omega)

theorem le_total (a b : Date) : a ≤ b ∨ b ≤ a := by
  simp only [le_def]; omega

theorem first_le (d : Date) : first ≤ d := by
  have hy := d.year_bounds
  have hm := d.month_bounds
  have hd := d.day_bounds
  simp only [le_def, first, minYear]; omega

theorem le_last (d : Date) : d ≤ last := by
  have hy := d.year_bounds
  have hm := d.month_bounds
  have hd := d.day_bounds
  simp only [le_def, last, maxYear]; omega

end Date

end DatePrompt
