import DatePrompt.Calendar.Weekday

/-!
# Weekdays, day by day

Day numbers and the calendar tell the same: going back a day lowers the number by one, and only the
first day has no day before it (`Date.number_of_previous?`, `Date.previous?_eq_none_iff`). So every
date is reached from the first day by going forward (`Date.induction`), later days have greater
numbers, and going back `n` days is subtracting `n` (`Date.daysBefore?_eq_some_iff`). The latest day
of a weekday, found by the remainder of a division, is therefore the first that is met when one goes
back day by day (`latest_weekday_met_first`).
-/

namespace DatePrompt

namespace Date

/-! ## Going back a day -/

theorem daysBeforeYear_eq (year : Int) : daysBeforeYear year =
    365 * (year - 1) + (year - 1) / 4 - (year - 1) / 100 + (year - 1) / 400 := rfl

theorem daysBeforeYear_succ (year : Int) :
    daysBeforeYear (year + 1) = daysBeforeYear year + if IsLeap year then 366 else 365 := by
  rw [daysBeforeYear_eq, daysBeforeYear_eq]
  by_cases h : IsLeap year
  · rw [if_pos h]
    unfold IsLeap at h
    omega
  · rw [if_neg h]
    unfold IsLeap at h
    omega

theorem daysOfMonths_twelve (year : Int) :
    daysOfMonths year 12 = if IsLeap year then 366 else 365 := by
  by_cases h : IsLeap year <;> simp [daysOfMonths, monthLength, h]

theorem daysOfMonths_nonneg (year : Int) (n : Nat) : 0 ≤ daysOfMonths year n := by
  induction n with
  | zero => exact Int.le_refl 0
  | succ n ih =>
    have hlength := monthLength_bounds year (n + 1)
    rw [daysOfMonths]
    omega

theorem number_nonneg (d : Date) : 0 ≤ d.number := by
  have hyear := d.year_bounds
  have hday := d.day_bounds
  have hmonths := daysOfMonths_nonneg d.year (d.month - 1).toNat
  have hyears : 0 ≤ daysBeforeYear d.year := by
    rw [daysBeforeYear_eq]
    omega
  unfold number
  omega

/-- The three ways of going back a day: within a month, into the month before, and into the year
before. -/
theorem previous?_eq_some_iff {d e : Date} : d.previous? = some e ↔
    (1 < d.day ∧ e.year = d.year ∧ e.month = d.month ∧ e.day = d.day - 1) ∨
    (d.day = 1 ∧ 1 < d.month ∧ e.year = d.year ∧ e.month = d.month - 1 ∧
      e.day = monthLength d.year (d.month - 1)) ∨
    (d.day = 1 ∧ d.month = 1 ∧ e.year = d.year - 1 ∧ e.month = 12 ∧ e.day = 31) := by
  have hday := d.day_bounds.1
  have hmonth := d.month_bounds.1
  unfold previous?
  split
  · rw [ofParts?_eq_some]
    omega
  · split
    · rw [ofParts?_eq_some]
      omega
    · rw [ofParts?_eq_some]
      omega

theorem number_of_previous? {d e : Date} (h : d.previous? = some e) :
    e.number = d.number - 1 := by
  unfold number
  rcases previous?_eq_some_iff.mp h with ⟨_, hy, hm, hd⟩ | ⟨hd', hm', hy, hm, hd⟩ |
    ⟨hd', hm', hy, hm, hd⟩
  · rw [hy, hm, hd]
    omega
  · obtain ⟨n, hn⟩ : ∃ n : Nat, d.month = n + 2 := ⟨(d.month - 2).toNat, by omega⟩
    have hafter : (d.month - 1).toNat = n + 1 := by omega
    have hbefore : (d.month - 1 - 1).toNat = n := by omega
    have hlength : d.month - 1 = (n : Int) + 1 := by omega
    rw [hy, hm, hd, hd', hafter, hbefore, daysOfMonths, hlength]
    omega
  · have hyear := daysBeforeYear_succ (d.year - 1)
    have hmonths := daysOfMonths_twelve (d.year - 1)
    have hdecember : daysOfMonths (d.year - 1) 12 = daysOfMonths (d.year - 1) 11 + 31 := rfl
    rw [Int.sub_add_cancel] at hyear
    rw [hy, hm, hd, hd', hm']
    show daysBeforeYear (d.year - 1) + daysOfMonths (d.year - 1) 11 + (31 - 1) =
      daysBeforeYear d.year + 0 + (1 - 1) - 1
    omega

theorem previous?_eq_none_iff {d : Date} : d.previous? = none ↔ d = first := by
  have hyear := d.year_bounds
  have hmonth := d.month_bounds
  have hday := d.day_bounds
  constructor
  · intro h
    unfold previous? at h
    split at h
    · have hlast : d.day - 1 ≤ monthLength d.year d.month := by
        have := d.valid.2.2.2
        omega
      exact absurd ⟨hyear, hmonth, by omega, hlast⟩ (ofParts?_eq_none.mp h)
    · split at h
      · have hlength := monthLength_bounds d.year (d.month - 1)
        exact absurd ⟨hyear, by omega, by omega, Int.le_refl _⟩ (ofParts?_eq_none.mp h)
      · -- every year but the first has a year before it, which ends on 31 December
        have hfirst : ¬ 1 ≤ d.year - 1 := fun hlow =>
          ofParts?_eq_none.mp h ⟨⟨hlow, by show _ ≤ (9999 : Int); omega⟩, by decide, by decide,
            Int.le_refl _⟩
        exact ext (by show _ = (1 : Int); omega) (by show _ = (1 : Int); omega)
          (by show _ = (1 : Int); omega)
  · rintro rfl
    rfl

/-- Every date is reached from the first day of the calendar, one day after the other. -/
theorem induction {p : Date → Prop} (hfirst : p first)
    (hnext : ∀ d e : Date, d.previous? = some e → p e → p d) (d : Date) : p d := by
  cases hprevious : d.previous? with
  | none => exact previous?_eq_none_iff.mp hprevious ▸ hfirst
  | some e =>
    have hnumber := number_of_previous? hprevious
    have he := e.number_nonneg
    exact hnext d e hprevious (induction hfirst hnext e)
termination_by d.number.toNat

/-! ## The order of dates -/

/-- What is before a day is not after the day before it. -/
theorem le_of_previous? {a d e : Date} (h : d.previous? = some e) (hle : a ≤ d) (hne : a ≠ d) :
    a ≤ e := by
  have hlt : ¬ d ≤ a := fun hge => hne (le_antisymm hle hge)
  have hmonth := a.month_bounds
  have hday := a.day_bounds
  rw [le_def] at hlt hle ⊢
  rcases previous?_eq_some_iff.mp h with ⟨_, hy, hm, hd⟩ | ⟨hd', hm', hy, hm, hd⟩ |
    ⟨hd', hm', hy, hm, hd⟩
  · omega
  · have hlength : a.year = d.year → a.month = d.month - 1 →
        a.day ≤ monthLength d.year (d.month - 1) := by
      intro hyear hmonth
      have := a.valid.2.2.2
      rwa [hyear, hmonth] at this
    omega
  · omega

/-- Later days have greater numbers. -/
theorem number_lt_of_le_of_ne {a b : Date} (h : a ≤ b) (hne : a ≠ b) : a.number < b.number := by
  induction b using Date.induction with
  | hfirst => exact absurd (le_antisymm h (first_le a)) hne
  | hnext d e hprevious ih =>
    have hnumber := number_of_previous? hprevious
    by_cases hae : a = e
    · rw [hae]
      omega
    · have hlt := ih (le_of_previous? hprevious h hne) hae
      omega

theorem le_iff_number_le {a b : Date} : a ≤ b ↔ a.number ≤ b.number := by
  constructor
  · intro h
    by_cases hne : a = b
    · exact Int.le_of_eq (congrArg number hne)
    · exact Int.le_of_lt (number_lt_of_le_of_ne h hne)
  · intro h
    rcases le_total a b with hle | hge
    · exact hle
    · by_cases hne : b = a
      · exact hne ▸ b.le_refl
      · exact absurd (number_lt_of_le_of_ne hge hne) (Int.not_lt.mpr h)

theorem number_injective {a b : Date} (h : a.number = b.number) : a = b :=
  le_antisymm (le_iff_number_le.mpr (Int.le_of_eq h)) (le_iff_number_le.mpr (Int.le_of_eq h.symm))

/-! ## Going back several days -/

theorem number_of_daysBefore? {n : Nat} {d e : Date} (h : d.daysBefore? n = some e) :
    e.number = d.number - n := by
  induction n generalizing d with
  | zero =>
    cases h
    omega
  | succ n ih =>
    obtain ⟨c, hprevious, hrest⟩ := Option.bind_eq_some_iff.mp h
    have hc := number_of_previous? hprevious
    have he := ih hrest
    omega

theorem exists_daysBefore? {n : Nat} {d : Date} (h : n ≤ d.number) :
    ∃ e, d.daysBefore? n = some e := by
  induction n generalizing d with
  | zero => exact ⟨d, rfl⟩
  | succ n ih =>
    cases hprevious : d.previous? with
    | none =>
      rw [previous?_eq_none_iff.mp hprevious] at h
      exact absurd h (by show ¬ ((n + 1 : Nat) : Int) ≤ 0; omega)
    | some c =>
      have hc := number_of_previous? hprevious
      obtain ⟨e, he⟩ := ih (d := c) (by omega)
      refine ⟨e, ?_⟩
      rw [daysBefore?, hprevious]
      exact he

/-- Going back some days is subtracting them from the number of the day. -/
theorem daysBefore?_eq_some_iff {n : Nat} {d e : Date} :
    d.daysBefore? n = some e ↔ e.number = d.number - n := by
  constructor
  · exact number_of_daysBefore?
  · intro h
    have he := e.number_nonneg
    obtain ⟨c, hc⟩ := exists_daysBefore? (n := n) (d := d) (by omega)
    rw [hc, number_injective (h.trans (number_of_daysBefore? hc).symm)]

/-! ## Weekdays -/

/-- The days of the week follow one another. -/
theorem weekday_of_previous? {d e : Date} (h : d.previous? = some e) :
    d.weekday = e.weekday % 7 + 1 := by
  have hnumber := number_of_previous? h
  unfold weekday
  omega

end Date

/-- What is met first on a weekday, going back day by day from a date: a date, or nothing before the
calendar ends. -/
inductive MeetsFirst (weekday : Int) : Date → Option Date → Prop
  | here {d : Date} (h : d.weekday = weekday) : MeetsFirst weekday d (some d)
  | back {d e : Date} {met : Option Date} (h : d.weekday ≠ weekday) (hback : d.previous? = some e)
      (hrest : MeetsFirst weekday e met) : MeetsFirst weekday d met
  | ends {d : Date} (h : d.weekday ≠ weekday) (hends : d.previous? = none) :
      MeetsFirst weekday d none

namespace MeetsFirst

variable {weekday : Int} {d : Date}

theorem unique {met met' : Option Date} (h : MeetsFirst weekday d met)
    (h' : MeetsFirst weekday d met') : met = met' := by
  induction h with
  | here h =>
    cases h' with
    | here => rfl
    | back hne | ends hne => exact absurd h hne
  | back hne hback _ ih =>
    cases h' with
    | here h => exact absurd h hne
    | back _ hback' hrest =>
      cases hback.symm.trans hback'
      exact ih hrest
    | ends _ hends => cases hback.symm.trans hends
  | ends hne hends =>
    cases h' with
    | here h => exact absurd h hne
    | back _ hback => cases hends.symm.trans hback
    | ends => rfl

/-- The remainder of the weekdays is how far the walk goes. -/
theorem daysBefore? (hweekday : 1 ≤ weekday ∧ weekday ≤ 7) {n : Nat}
    (hn : ((d.weekday - weekday) % 7).toNat = n) : MeetsFirst weekday d (d.daysBefore? n) := by
  have hd := d.weekday_bounds
  induction n generalizing d with
  | zero => exact .here (by omega)
  | succ n ih =>
    have hne : d.weekday ≠ weekday := by omega
    rw [Date.daysBefore?]
    cases hprevious : d.previous? with
    | none => exact .ends hne hprevious
    | some e =>
      have he := e.weekday_bounds
      have hnext := Date.weekday_of_previous? hprevious
      exact .back hne hprevious (ih (by omega) he)

end MeetsFirst

section

variable {w : Int} {reference d : Date} (hw : 1 ≤ w ∧ w ≤ 7)
include hw

theorem latestWeekday_eq : latestWeekday w reference =
    match reference.daysBefore? ((reference.weekday - w) % 7).toNat with
    | some d => .ok d
    | none => .error (.noneBefore w reference) := if_pos hw

/-- The latest day of a weekday is the first that is met. -/
theorem latestWeekday_eq_ok_iff :
    latestWeekday w reference = .ok d ↔ MeetsFirst w reference (some d) := by
  have hmeets := MeetsFirst.daysBefore? (d := reference) hw rfl
  rw [latestWeekday_eq hw]
  constructor
  · intro h
    split at h
    · rename_i hback
      cases h
      rwa [hback] at hmeets
    · cases h
  · intro h
    rw [hmeets.unique h]

theorem latestWeekday_eq_error_iff {e : WeekdayError} :
    latestWeekday w reference = .error e ↔
      e = .noneBefore w reference ∧ MeetsFirst w reference none := by
  have hmeets := MeetsFirst.daysBefore? (d := reference) hw rfl
  rw [latestWeekday_eq hw]
  constructor
  · intro h
    split at h
    · cases h
    · rename_i hback
      cases h
      rw [hback] at hmeets
      exact ⟨rfl, hmeets⟩
  · rintro ⟨rfl, h⟩
    rw [hmeets.unique h]

/-- The latest day of a weekday is one of the last seven days. -/
theorem exists_daysBefore?_of_latestWeekday (h : latestWeekday w reference = .ok d) :
    ∃ n < 7, reference.daysBefore? n = some d := by
  rw [latestWeekday_eq hw] at h
  split at h
  · rename_i hback
    cases h
    exact ⟨_, by omega, hback⟩
  · cases h

theorem le_of_latestWeekday (h : latestWeekday w reference = .ok d) : d ≤ reference := by
  obtain ⟨n, -, hback⟩ := exists_daysBefore?_of_latestWeekday hw h
  have hnumber := Date.number_of_daysBefore? hback
  exact Date.le_iff_number_le.mpr (by omega)

/-- After a week of the calendar there has been a day of each weekday. -/
theorem exists_latestWeekday (hweek : 6 ≤ reference.number) :
    ∃ d, latestWeekday w reference = .ok d := by
  obtain ⟨d, hback⟩ := Date.exists_daysBefore? (d := reference)
    (n := ((reference.weekday - w) % 7).toNat) (by omega)
  exact ⟨d, by rw [latestWeekday_eq hw, hback]⟩

end

/-- Each of the last seven days is the latest of its weekday. -/
theorem latestWeekday_of_daysBefore? {n : Nat} {reference d : Date} (hn : n < 7)
    (h : reference.daysBefore? n = some d) : latestWeekday d.weekday reference = .ok d := by
  have hnumber := Date.number_of_daysBefore? h
  have hback : ((reference.weekday - d.weekday) % 7).toNat = n := by
    unfold Date.weekday
    omega
  rw [latestWeekday_eq d.weekday_bounds, hback, h]

theorem latestWeekday_of_outside {w : Int} (hw : ¬ (1 ≤ w ∧ w ≤ 7)) (reference : Date) :
    latestWeekday w reference = .error (.outside w) := if_neg hw

/-- The latest days of the weekdays are the last seven days. -/
theorem exists_latestWeekday_eq_ok_iff {reference d : Date} :
    (∃ w : Int, latestWeekday w reference = .ok d) ↔
      ∃ n < 7, reference.daysBefore? n = some d := by
  constructor
  · rintro ⟨w, h⟩
    by_cases hw : 1 ≤ w ∧ w ≤ 7
    · exact exists_daysBefore?_of_latestWeekday hw h
    · rw [latestWeekday_of_outside hw] at h
      cases h
  · rintro ⟨n, hn, hback⟩
    exact ⟨d.weekday, latestWeekday_of_daysBefore? hn hback⟩

/-- The first day of the calendar is a Monday and the days of the week follow one another. The
latest day of a weekday is the first that is met when one goes back day by day from the reference.
It is one of the last seven days, and there is none only if the calendar ends before one is met.
From the seventh day of the calendar on the latest days of the seven weekdays are the last seven
days. -/
theorem latest_weekday_met_first (reference : Date) :
    (Date.first.weekday = 1 ∧
      ∀ d e : Date, d.previous? = some e → d.weekday = e.weekday % 7 + 1) ∧
    (∀ (n : Nat) (d : Date), reference.daysBefore? n = some d ↔ d.number = reference.number - n) ∧
    (∀ w : Int, ¬ (1 ≤ w ∧ w ≤ 7) → latestWeekday w reference = .error (.outside w)) ∧
    (∀ w : Int, 1 ≤ w ∧ w ≤ 7 →
      (∀ d, latestWeekday w reference = .ok d ↔ MeetsFirst w reference (some d)) ∧
      (∀ e, latestWeekday w reference = .error e ↔
        e = .noneBefore w reference ∧ MeetsFirst w reference none) ∧
      ∀ d, latestWeekday w reference = .ok d →
        d ≤ reference ∧ ∃ n < 7, reference.daysBefore? n = some d) ∧
    (⟨1, 1, 7, by decide⟩ ≤ reference →
      (∀ w : Int, 1 ≤ w ∧ w ≤ 7 → ∃ d, latestWeekday w reference = .ok d) ∧
      ∀ d, (∃ w : Int, latestWeekday w reference = .ok d) ↔
        ∃ n < 7, reference.daysBefore? n = some d) := by
  refine ⟨⟨Date.weekday_first, fun d e => Date.weekday_of_previous?⟩, ?_, ?_, ?_, ?_⟩
  · intro n d
    exact Date.daysBefore?_eq_some_iff
  · intro w hw
    exact latestWeekday_of_outside hw reference
  · intro w hw
    refine ⟨fun d => latestWeekday_eq_ok_iff hw, fun e => latestWeekday_eq_error_iff hw, ?_⟩
    intro d h
    exact ⟨le_of_latestWeekday hw h, exists_daysBefore?_of_latestWeekday hw h⟩
  · intro hweek
    have hnumber : 6 ≤ reference.number := Date.le_iff_number_le.mp hweek
    exact ⟨fun w hw => exists_latestWeekday hw hnumber, fun d => exists_latestWeekday_eq_ok_iff⟩

/-- The last Tuesday before 1 March 2000 was the leap day, and no Sunday was before the first week
of the calendar was over. -/
theorem latest_weekday_met_first_leap_day :
    MeetsFirst 2 ⟨2000, 3, 1, by decide⟩ (some ⟨2000, 2, 29, by decide⟩) ∧
    (∃ w, latestWeekday w ⟨2000, 3, 1, by decide⟩ = .ok ⟨2000, 2, 24, by decide⟩) ∧
    latestWeekday 8 ⟨2000, 3, 1, by decide⟩ = .error (.outside 8) ∧
    MeetsFirst 7 ⟨1, 1, 6, by decide⟩ none := by
  obtain ⟨-, -, houtside, hinside, hweek⟩ := latest_weekday_met_first ⟨2000, 3, 1, by decide⟩
  obtain ⟨-, -, -, hearly, -⟩ := latest_weekday_met_first ⟨1, 1, 6, by decide⟩
  refine ⟨((hinside 2 (by decide)).1 _).mp rfl, ?_, houtside 8 (by decide), ?_⟩
  · exact ((hweek (by decide)).2 _).mpr ⟨6, by decide, rfl⟩
  · exact (((hearly 7 (by decide)).2.1 _).mp rfl).2

end DatePrompt
