import DatePrompt.Calendar.Iso
import DatePrompt.Entry.DateParts

/-!
# Completion

Missing components are filled in from a reference date, looking backwards: a day alone means the
latest such day on or before the reference, a day and a month likewise. A full date stands for
itself, whatever the reference.

The search looks at a bounded number of months and years, which is wide enough: a day of the month
is found within three months, and a day of the year within two years, or nine for 29 February. Only
the beginning of the calendar can end it in vain.

On its way it asks the calendar for the length of each month and for each date. The values are
checked first, so that nothing is asked for that the calendar does not have
(`DateParts.attemptWithin_ne_calendar`). A value that is refused is written into the text of the
error, which fails if it is too long to be written (`CompletionError.raised`).
-/

namespace DatePrompt

/-- Why parts do not name a date. -/
inductive DateError
  /-- A full date that the calendar does not have. -/
  | invalid (year month day : Int)
  /-- The given components do not determine a date. -/
  | incompletable (shape : Shape)
  /-- A component has a value that it cannot have in any date. -/
  | outside (component : Component) (value : Int)
  /-- No date on or before the reference has the given parts. -/
  | noneBefore (reference : Date)
  deriving DecidableEq

namespace DateError

/-- The text of the error, or none if a number in it is too long to be written. -/
def text? : DateError → Option String
  | .invalid y m d =>
    if Writable d ∧ Writable m ∧ Writable y then
      some (zeroPadded 2 d ++ "." ++ zeroPadded 2 m ++ "." ++ zeroPadded 4 y ++
        " is not a valid date")
    else none
  | .incompletable shape => some ("Cannot complete a date from " ++ shape.describe ", " "nothing")
  | .outside c value => if Writable value then some (c.outsideText value) else none
  | .noneBefore reference => some s!"No matching date on or before {reference.iso}"

/-- What is told: the text of the error, or that a number in it is too long. -/
def message (e : DateError) : String := e.text?.getD tooLong

/-- The name that the kind of error has for the reader of a log. -/
def kind : DateError → String
  | .invalid .. => "InvalidCalendarDateError"
  | _ => "NoValidDateError"

end DateError

/-- Why a completion comes to no date. -/
inductive CompletionError
  /-- The parts name none. -/
  | date (e : DateError)
  /-- The parts name none, but the text of that error cannot be written. -/
  | unwritable (e : DateError)
  /-- The calendar was asked for what it does not have. -/
  | calendar (e : CalendarError)
  deriving DecidableEq

namespace CompletionError

/-- What comes of an error being raised, for which its text is written first. -/
def raised (e : DateError) : CompletionError :=
  match e.text? with
  | some _ => .date e
  | none => .unwritable e

variable {e e' : DateError}

theorem raised_eq_date_iff : raised e = .date e' ↔ e = e' ∧ e.text?.isSome = true := by
  unfold raised
  cases e.text? <;> simp

theorem raised_eq_unwritable_iff : raised e = .unwritable e' ↔ e = e' ∧ e.text? = none := by
  unfold raised
  cases e.text? <;> simp

theorem raised_ne_calendar (e : DateError) (e' : CalendarError) : raised e ≠ .calendar e' := by
  unfold raised
  cases e.text? <;> exact fun h => by cases h

theorem raised_inj (h : raised e = raised e') : e = e' := by
  cases htext : e'.text? with
  | some text =>
    have hdate : raised e' = .date e' := raised_eq_date_iff.mpr ⟨rfl, by rw [htext]; rfl⟩
    exact (raised_eq_date_iff.mp (h.trans hdate)).1
  | none =>
    have hunwritable : raised e' = .unwritable e' := raised_eq_unwritable_iff.mpr ⟨rfl, htext⟩
    exact (raised_eq_unwritable_iff.mp (h.trans hunwritable)).1

end CompletionError

/-! ## Searching backwards -/

/-- The years to look at, the latest first: at most `n` of them, none before the calendar. -/
def recentYears (n : Nat) (reference : Date) : List Int :=
  ((List.range n).map fun (k : Nat) => reference.year - k).filter (minYear ≤ ·)

theorem mem_recentYears {n : Nat} {reference : Date} {y : Int} :
    y ∈ recentYears n reference ↔ minYear ≤ y ∧ reference.year - n < y ∧ y ≤ reference.year := by
  simp only [recentYears, List.mem_filter, List.mem_map, List.mem_range, decide_eq_true_eq]
  constructor
  · rintro ⟨⟨k, hk, rfl⟩, h⟩; omega
  · rintro ⟨h, hn, hy⟩
    exact ⟨⟨(reference.year - y).toNat, by omega, by omega⟩, h⟩

/-- The months to look at as pairs of year and month, the latest first: at most `n` of them, none
before the calendar. -/
def recentMonths (n : Nat) (reference : Date) : List (Int × Int) :=
  ((List.range n).map fun (k : Nat) =>
    let months := 12 * reference.year + (reference.month - 1) - k
    (months / 12, months % 12 + 1)).filter (minYear ≤ ·.1)

theorem isMonth_of_mem_recentYears {n : Nat} {reference : Date} {y m : Int}
    (h : y ∈ recentYears n reference) (hm : 1 ≤ m ∧ m ≤ 12) : IsMonth y m := by
  obtain ⟨hlow, _, hhigh⟩ := mem_recentYears.mp h
  exact ⟨⟨hlow, Int.le_trans hhigh reference.year_bounds.2⟩, hm⟩

theorem isMonth_of_mem_recentMonths {n : Nat} {reference : Date} {p : Int × Int}
    (h : p ∈ recentMonths n reference) : IsMonth p.1 p.2 := by
  have hyear := reference.year_bounds
  have hmonth := reference.month_bounds
  simp only [recentMonths, List.mem_filter, List.mem_map, decide_eq_true_eq] at h
  obtain ⟨⟨k, _, rfl⟩, hlow⟩ := h
  refine ⟨⟨hlow, ?_⟩, ?_⟩
  · show _ ≤ (9999 : Int)
    dsimp only
    omega
  · dsimp only
    omega

/-- Looks for a day in one month after the other, up to the first that is not after the
reference. -/
def searchMonths (reference : Date) (day : Int) : List (Int × Int) → Except CompletionError Date
  | [] => .error (.raised (.noneBefore reference))
  | (year, month) :: rest =>
    match dayOfMonth? year month day with
    | .error e => .error (.calendar e)
    | .ok none => searchMonths reference day rest
    | .ok (some d) => if d ≤ reference then .ok d else searchMonths reference day rest

/-- The first of the dates that is not after the reference. -/
def firstNotAfter (reference : Date) (candidates : List Date) : Except DateError Date :=
  match candidates.find? (· ≤ reference) with
  | some d => .ok d
  | none => .error (.noneBefore reference)

theorem firstNotAfter_cons (reference a : Date) (rest : List Date) :
    firstNotAfter reference (a :: rest) =
      if a ≤ reference then .ok a else firstNotAfter reference rest := by
  unfold firstNotAfter
  by_cases h : a ≤ reference
  · rw [if_pos h, List.find?_cons_of_pos (by simpa using h)]
  · rw [if_neg h, List.find?_cons_of_neg (by simpa using h)]

/-- In months of the calendar the search finds the first of the dates that they have. -/
theorem searchMonths_eq (reference : Date) {day : Int} (hday : 1 ≤ day)
    {months : List (Int × Int)} (hmonths : ∀ p ∈ months, IsMonth p.1 p.2) :
    searchMonths reference day months =
      (firstNotAfter reference
        (months.filterMap fun (y, m) => Date.ofParts? y m day)).mapError .raised := by
  induction months with
  | nil => rfl
  | cons p months ih =>
    obtain ⟨hp, hrest⟩ := List.forall_mem_cons.mp hmonths
    obtain ⟨y, m⟩ := p
    rw [searchMonths, dayOfMonth?_eq hp hday]
    cases hdate : Date.ofParts? y m day with
    | none =>
      simp only [List.filterMap_cons, hdate]
      exact ih hrest
    | some d =>
      simp only [List.filterMap_cons, hdate, firstNotAfter_cons]
      by_cases hle : d ≤ reference
      · rw [if_pos hle, if_pos hle]
        rfl
      · rw [if_neg hle, if_neg hle]
        exact ih hrest

/-! ## Completing -/

namespace DateParts

/-- Completes the parts, looking back over a number of years where the year alone is missing and
over a number of months where the month is missing too. -/
def attemptWithin (years months : Nat) (parts : DateParts) (reference : Date) :
    Except CompletionError Date :=
  match parts with
  | ⟨some d, none, none⟩ =>
    if ¬ Component.day.InRange d then .error (.raised (.outside .day d))
    else searchMonths reference d (recentMonths months reference)
  | ⟨some d, some m, y?⟩ =>
    if ¬ Component.day.InRange d then .error (.raised (.outside .day d))
    else if ¬ Component.month.InRange m then .error (.raised (.outside .month m))
    else match y? with
      | none => searchMonths reference d ((recentYears years reference).map (·, m))
      | some y =>
        if ¬ Component.year.InRange y then .error (.raised (.invalid y m d))
        else match dayOfMonth? y m d with
          | .error e => .error (.calendar e)
          | .ok none => .error (.raised (.invalid y m d))
          | .ok (some date) => .ok date
  | _ => .error (.raised (.incompletable parts.shape))

/-- How far the parts get: to the check of the shape, of the day or of the month, or past these to a
search or to a full date. -/
inductive Checked : DateParts → Prop
  | incompletable {parts : DateParts} (hs : ¬ parts.shape.Completable) : Checked parts
  | dayOutside {day : Int} {month? year? : Option Int}
      (hs : (DateParts.mk (some day) month? year?).shape.Completable)
      (hday : ¬ Component.day.InRange day) : Checked ⟨some day, month?, year?⟩
  | monthOutside {day month : Int} {year? : Option Int} (hday : Component.day.InRange day)
      (hmonth : ¬ Component.month.InRange month) : Checked ⟨some day, some month, year?⟩
  | search {day : Int} {month? : Option Int} (hday : Component.day.InRange day)
      (hmonth : ∀ m, month? = some m → Component.month.InRange m) : Checked ⟨some day, month?, none⟩
  | full {day month year : Int} (hday : Component.day.InRange day)
      (hmonth : Component.month.InRange month) : Checked ⟨some day, some month, some year⟩

theorem checked (parts : DateParts) : parts.Checked := by
  by_cases hs : parts.shape.Completable
  · obtain ⟨_ | day, month?, year?⟩ := parts
    · exact absurd (Shape.completable_iff.mp hs).1 Bool.false_ne_true
    · by_cases hday : Component.day.InRange day
      · cases month? with
        | none =>
          cases year? with
          | none => exact .search hday fun _ h => by cases h
          | some year => exact absurd hs (by simp [shape, Shape.completable_iff])
        | some month =>
          by_cases hmonth : Component.month.InRange month
          · cases year? with
            | none => exact .search hday fun _ h => by cases h; exact hmonth
            | some year => exact .full hday hmonth
          · exact .monthOutside hday hmonth
      · exact .dayOutside hs hday
  · exact .incompletable hs

variable {years months : Nat}

theorem attemptWithin_of_not_completable {parts : DateParts} (h : ¬ parts.shape.Completable)
    (reference : Date) :
    parts.attemptWithin years months reference = .error (.raised (.incompletable parts.shape)) := by
  obtain ⟨day, month, year⟩ := parts
  rw [Shape.completable_iff] at h
  cases day <;> cases month <;> cases year <;> first | rfl | simp [shape] at h

theorem attemptWithin_of_day_outside {parts : DateParts} (hs : parts.shape.Completable) {day : Int}
    (hday : parts.day = some day) (hrange : ¬ Component.day.InRange day) (reference : Date) :
    parts.attemptWithin years months reference = .error (.raised (.outside .day day)) := by
  obtain ⟨_, month?, year?⟩ := parts
  cases hday
  cases month? with
  | some month => exact if_pos hrange
  | none =>
    cases year? with
    | none => exact if_pos hrange
    | some year => exact absurd hs (by simp [shape, Shape.completable_iff])

section InRange

variable {day month year : Int} (hday : Component.day.InRange day)
include hday

theorem attemptWithin_day (reference : Date) :
    attemptWithin years months ⟨some day, none, none⟩ reference =
      (firstNotAfter reference
        ((recentMonths months reference).filterMap fun (y, m) =>
          Date.ofParts? y m day)).mapError .raised := by
  rw [attemptWithin, if_neg (not_not_intro hday),
    searchMonths_eq reference hday.1 fun _ => isMonth_of_mem_recentMonths]

theorem attemptWithin_of_month_outside (hmonth : ¬ Component.month.InRange month)
    (year? : Option Int) (reference : Date) :
    attemptWithin years months ⟨some day, some month, year?⟩ reference =
      .error (.raised (.outside .month month)) := by
  show (if ¬ Component.day.InRange day then _ else _) = _
  rw [if_neg (not_not_intro hday), if_pos hmonth]

variable (hmonth : Component.month.InRange month)
include hmonth

theorem attemptWithin_day_month (reference : Date) :
    attemptWithin years months ⟨some day, some month, none⟩ reference =
      (firstNotAfter reference
        ((recentYears years reference).filterMap fun y =>
          Date.ofParts? y month day)).mapError .raised := by
  have hmonths : ∀ p ∈ (recentYears years reference).map (·, month), IsMonth p.1 p.2 := by
    intro p hp
    obtain ⟨y, hy, rfl⟩ := List.mem_map.mp hp
    exact isMonth_of_mem_recentYears hy hmonth
  rw [attemptWithin, if_neg (not_not_intro hday), if_neg (not_not_intro hmonth),
    searchMonths_eq reference hday.1 hmonths,
    List.filterMap_map]
  rfl

/-- A full date is not searched for. -/
theorem attemptWithin_full (reference : Date) :
    attemptWithin years months ⟨some day, some month, some year⟩ reference =
      Except.mapError .raised (match Date.ofParts? year month day with
        | some d => .ok d
        | none => .error (.invalid year month day)) := by
  rw [attemptWithin, if_neg (not_not_intro hday), if_neg (not_not_intro hmonth)]
  by_cases hyear : Component.year.InRange year
  · rw [if_neg (not_not_intro hyear), dayOfMonth?_eq ⟨hyear, hmonth⟩ hday.1]
    cases Date.ofParts? year month day <;> rfl
  · rw [if_pos hyear, Date.ofParts?_eq_none.mpr fun hvalid => hyear hvalid.1]
    rfl

end InRange

/-- Completion ends with a date or raises an error about the parts. -/
theorem exists_attemptWithin_eq (years months : Nat) (parts : DateParts) (reference : Date) :
    ∃ outcome : Except DateError Date,
      parts.attemptWithin years months reference = outcome.mapError .raised := by
  cases parts.checked with
  | incompletable hs => exact ⟨.error _, attemptWithin_of_not_completable hs reference⟩
  | dayOutside hs hday => exact ⟨.error _, attemptWithin_of_day_outside hs rfl hday reference⟩
  | monthOutside hday hmonth =>
    exact ⟨.error _, attemptWithin_of_month_outside hday hmonth _ reference⟩
  | @search day month? hday hmonth =>
    cases month? with
    | none => exact ⟨_, attemptWithin_day hday reference⟩
    | some month => exact ⟨_, attemptWithin_day_month hday (hmonth month rfl) reference⟩
  | full hday hmonth => exact ⟨_, attemptWithin_full hday hmonth reference⟩

/-- The calendar is never asked for what it does not have. -/
theorem attemptWithin_ne_calendar (years months : Nat) (parts : DateParts) (reference : Date)
    (e : CalendarError) : parts.attemptWithin years months reference ≠ .error (.calendar e) := by
  obtain ⟨outcome, houtcome⟩ := exists_attemptWithin_eq years months parts reference
  rw [houtcome]
  cases outcome with
  | ok d => exact fun h => by cases h
  | error e' => exact fun h => CompletionError.raised_ne_calendar e' e (Except.error.inj h)

/-- The date that the parts come to, as `attemptWithin` finds it, or why they come to none, whether
that can be written or not. -/
def completeWithin (years months : Nat) (parts : DateParts) (reference : Date) :
    Except DateError Date :=
  match h : parts.attemptWithin years months reference with
  | .ok d => .ok d
  | .error (.date e) => .error e
  | .error (.unwritable e) => .error e
  | .error (.calendar e) => absurd h (parts.attemptWithin_ne_calendar years months reference e)

theorem completeWithin_eq_of_attempt {years months : Nat} {parts : DateParts} {reference : Date}
    {outcome : Except DateError Date}
    (h : parts.attemptWithin years months reference = outcome.mapError .raised) :
    parts.completeWithin years months reference = outcome := by
  unfold completeWithin
  cases outcome with
  | ok d =>
    split <;> rename_i heq <;> cases heq.symm.trans h
    rfl
  | error e =>
    split <;> rename_i heq
    · cases heq.symm.trans h
    · rw [(CompletionError.raised_eq_date_iff.mp (Except.error.inj (h.symm.trans heq))).1]
    · rw [(CompletionError.raised_eq_unwritable_iff.mp (Except.error.inj (h.symm.trans heq))).1]
    · exact absurd heq (parts.attemptWithin_ne_calendar years months reference _)

theorem mapError_completeWithin (years months : Nat) (parts : DateParts) (reference : Date) :
    (parts.completeWithin years months reference).mapError .raised =
      parts.attemptWithin years months reference := by
  obtain ⟨outcome, houtcome⟩ := exists_attemptWithin_eq years months parts reference
  rw [completeWithin_eq_of_attempt houtcome, houtcome]

theorem mapError_raised_inj {x y : Except DateError Date}
    (h : x.mapError CompletionError.raised = y.mapError .raised) : x = y := by
  cases x with
  | ok d => cases y <;> cases h; rfl
  | error e =>
    cases y with
    | ok d => cases h
    | error e' => rw [CompletionError.raised_inj (Except.error.inj h)]

/-- How far back a date is looked for. -/
def yearsBack : Nat := 9
def monthsBack : Nat := 12

/-- What comes of looking back that far. -/
def attempt (parts : DateParts) (reference : Date) : Except CompletionError Date :=
  parts.attemptWithin yearsBack monthsBack reference

/-- The date that the parts name, seen from the reference. -/
def complete (parts : DateParts) (reference : Date) : Except DateError Date :=
  parts.completeWithin yearsBack monthsBack reference

theorem mapError_complete (parts : DateParts) (reference : Date) :
    (parts.complete reference).mapError .raised = parts.attempt reference :=
  mapError_completeWithin yearsBack monthsBack parts reference

end DateParts

end DatePrompt
