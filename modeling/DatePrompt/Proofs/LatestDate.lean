import DatePrompt.Entry.Completion
import Mathlib.Order.Bounds.Defs

/-!
# The latest date

The search for a date goes back over a number of months or years and ends at the first candidate
that is not after the reference. The candidates stand in descending order, so that it ends at the
latest of them (`firstNotAfter_eq_ok_iff`). That none is missed is a fact of the calendar: of two
months in a row one has 31 days, and of eight years in a row one is a leap year. A date further
back than three months therefore has a later one of the same day within three, and a date further
back than nine years one of the same day and month within nine (`Date.exists_recent_of_day`,
`Date.exists_recent_of_day_month`).
-/

namespace DatePrompt

/-! ## Months counted through the years -/

namespace Date

/-- The number of the month of a date, counted through the years. -/
def monthNumber (d : Date) : Int := 12 * d.year + (d.month - 1)

theorem monthNumber_bounds (d : Date) : 12 ≤ d.monthNumber ∧ d.monthNumber ≤ 12 * 9999 + 11 := by
  have hyear := d.year_bounds
  have hmonth := d.month_bounds
  unfold monthNumber
  omega

variable {a b : Date}

theorem monthNumber_le_of_le (h : a ≤ b) : a.monthNumber ≤ b.monthNumber := by
  have ha := a.month_bounds
  have hb := b.month_bounds
  rw [le_def] at h
  unfold monthNumber
  omega

theorem le_of_monthNumber_lt (h : a.monthNumber < b.monthNumber) : a ≤ b := by
  have ha := a.month_bounds
  have hb := b.month_bounds
  unfold monthNumber at h
  rw [le_def]
  omega

theorem le_of_year_lt (h : a.year < b.year) : a ≤ b := .inl h

theorem year_le_of_le (h : a ≤ b) : a.year ≤ b.year := by
  rw [le_def] at h
  omega

/-- The date of a month and a day, if the month has the day and is one of the calendar. -/
theorem exists_of_monthNumber {n day : Int} (hyear : minYear ≤ n / 12 ∧ n / 12 ≤ maxYear)
    (hday : 1 ≤ day ∧ day ≤ monthLength (n / 12) (n % 12 + 1)) :
    ∃ c : Date, c.monthNumber = n ∧ c.day = day := by
  have hmonth : 1 ≤ n % 12 + 1 ∧ n % 12 + 1 ≤ 12 := by omega
  refine ⟨⟨n / 12, n % 12 + 1, day, hyear, hmonth, hday⟩, ?_, rfl⟩
  show 12 * (n / 12) + (n % 12 + 1 - 1) = n
  omega

end Date

/-! ## Candidates -/

theorem recentYears_pairwise (n : Nat) (reference : Date) :
    (recentYears n reference).Pairwise fun a b => b < a := by
  unfold recentYears
  refine List.Pairwise.filter _ (List.pairwise_map.mpr ?_)
  exact List.pairwise_lt_range.imp fun h => by omega

theorem recentMonths_pairwise (n : Nat) (reference : Date) :
    (recentMonths n reference).Pairwise fun a b => 12 * b.1 + b.2 < 12 * a.1 + a.2 := by
  unfold recentMonths
  refine List.Pairwise.filter _ (List.pairwise_map.mpr ?_)
  exact List.pairwise_lt_range.imp fun h => by dsimp only; omega

section Candidates

variable {n : Nat} {reference c : Date} {day month : Int}

theorem mem_recentMonths {y m : Int} :
    (y, m) ∈ recentMonths n reference ↔ (1 ≤ m ∧ m ≤ 12) ∧ minYear ≤ y ∧
      reference.monthNumber - n < 12 * y + (m - 1) ∧ 12 * y + (m - 1) ≤ reference.monthNumber := by
  unfold Date.monthNumber
  simp only [recentMonths, List.mem_filter, List.mem_map, List.mem_range, decide_eq_true_eq,
    Prod.mk.injEq]
  constructor
  · rintro ⟨⟨k, hk, rfl, rfl⟩, hyear⟩
    omega
  · rintro ⟨hm, hyear, hlow, hhigh⟩
    refine ⟨⟨(12 * reference.year + (reference.month - 1) - (12 * y + (m - 1))).toNat, ?_⟩, hyear⟩
    omega

/-- The candidates for a day: the dates of that day in the last months. -/
theorem mem_monthCandidates :
    c ∈ ((recentMonths n reference).filterMap fun (y, m) => Date.ofParts? y m day) ↔
      c.day = day ∧ reference.monthNumber - n < c.monthNumber ∧
        c.monthNumber ≤ reference.monthNumber := by
  simp only [List.mem_filterMap, Prod.exists, Date.ofParts?_eq_some, mem_recentMonths]
  constructor
  · rintro ⟨_, _, ⟨_, _, hlow, hhigh⟩, rfl, rfl, hday⟩
    exact ⟨hday, hlow, hhigh⟩
  · rintro ⟨hday, hlow, hhigh⟩
    exact ⟨c.year, c.month, ⟨c.month_bounds, c.year_bounds.1, hlow, hhigh⟩, rfl, rfl, hday⟩

/-- The candidates for a day and a month: the dates of that day and month in the last years. -/
theorem mem_yearCandidates :
    c ∈ ((recentYears n reference).filterMap fun y => Date.ofParts? y month day) ↔
      (c.month = month ∧ c.day = day) ∧ reference.year - n < c.year ∧
        c.year ≤ reference.year := by
  simp only [List.mem_filterMap, Date.ofParts?_eq_some, mem_recentYears]
  constructor
  · rintro ⟨_, ⟨_, hlow, hhigh⟩, rfl, hmonth, hday⟩
    exact ⟨⟨hmonth, hday⟩, hlow, hhigh⟩
  · rintro ⟨⟨hmonth, hday⟩, hlow, hhigh⟩
    exact ⟨c.year, ⟨c.year_bounds.1, hlow, hhigh⟩, rfl, hmonth, hday⟩

theorem monthCandidates_pairwise :
    ((recentMonths n reference).filterMap fun (y, m) => Date.ofParts? y m day).Pairwise
      fun a b => b ≤ a := by
  rw [List.pairwise_filterMap]
  refine (recentMonths_pairwise n reference).imp fun {p q} h a ha b hb => ?_
  obtain ⟨hya, hma, -⟩ := Date.ofParts?_eq_some.mp ha
  obtain ⟨hyb, hmb, -⟩ := Date.ofParts?_eq_some.mp hb
  refine Date.le_of_monthNumber_lt ?_
  unfold Date.monthNumber
  omega

theorem yearCandidates_pairwise :
    ((recentYears n reference).filterMap fun y => Date.ofParts? y month day).Pairwise
      fun a b => b ≤ a := by
  rw [List.pairwise_filterMap]
  refine (recentYears_pairwise n reference).imp fun {p q} h a ha b hb => ?_
  have hya := (Date.ofParts?_eq_some.mp ha).1
  have hyb := (Date.ofParts?_eq_some.mp hb).1
  exact Date.le_of_year_lt (by omega)

end Candidates

/-! ## The first candidate that is not after the reference -/

/-- In descending order the first date that is not after the reference is the latest of those. -/
theorem firstNotAfter_eq_ok_iff {reference d : Date} {candidates : List Date}
    (hdesc : candidates.Pairwise fun a b => b ≤ a) :
    firstNotAfter reference candidates = .ok d ↔
      IsGreatest {c | c ∈ candidates ∧ c ≤ reference} d := by
  induction candidates with
  | nil =>
    constructor
    · intro h
      cases h
    · rintro ⟨⟨h, _⟩, _⟩
      cases h
  | cons a rest ih =>
    obtain ⟨hlater, hrest⟩ := List.pairwise_cons.mp hdesc
    rw [firstNotAfter_cons]
    by_cases ha : a ≤ reference
    · have hfirst : IsGreatest {c | c ∈ a :: rest ∧ c ≤ reference} a := by
        refine ⟨⟨List.mem_cons_self, ha⟩, ?_⟩
        rintro c ⟨hc, _⟩
        rcases List.mem_cons.mp hc with rfl | hc
        · exact c.le_refl
        · exact hlater c hc
      rw [if_pos ha]
      constructor
      · intro h
        cases h
        exact hfirst
      · intro h
        rw [Date.le_antisymm (hfirst.2 h.1) (h.2 hfirst.1)]
    · have hset : {c | c ∈ a :: rest ∧ c ≤ reference} = {c | c ∈ rest ∧ c ≤ reference} := by
        ext c
        show c ∈ a :: rest ∧ c ≤ reference ↔ c ∈ rest ∧ c ≤ reference
        rw [List.mem_cons]
        constructor
        · rintro ⟨rfl | hc, hle⟩
          · exact absurd hle ha
          · exact ⟨hc, hle⟩
        · rintro ⟨hc, hle⟩
          exact ⟨.inr hc, hle⟩
      rw [if_neg ha, hset]
      exact ih hrest

theorem firstNotAfter_eq_error_iff {reference : Date} {candidates : List Date} {e : DateError} :
    firstNotAfter reference candidates = .error e ↔
      e = .noneBefore reference ∧ ∀ c ∈ candidates, ¬ c ≤ reference := by
  induction candidates with
  | nil =>
    constructor
    · intro h
      cases h
      exact ⟨rfl, fun c hc => by cases hc⟩
    · rintro ⟨rfl, _⟩
      rfl
  | cons a rest ih =>
    rw [firstNotAfter_cons, List.forall_mem_cons]
    by_cases ha : a ≤ reference
    · simp [ha]
    · rw [if_neg ha, ih, and_iff_right ha]

/-- The outcome is the latest date with the property on or before the reference, or says that there
is none. -/
structure FindsLatest (reference : Date) (p : Date → Prop) (outcome : Except DateError Date) :
    Prop where
  ok_iff : ∀ d, outcome = .ok d ↔ IsGreatest {e | e ≤ reference ∧ p e} d
  error_iff : ∀ error, outcome = .error error ↔
    error = .noneBefore reference ∧ ∀ e ≤ reference, ¬ p e

/-- A search finds the latest date of all if its candidates have one after each other date. -/
theorem findsLatest_firstNotAfter {reference : Date} {p : Date → Prop} {candidates : List Date}
    (hdesc : candidates.Pairwise fun a b => b ≤ a) (hp : ∀ c ∈ candidates, p c)
    (hreach : ∀ e ≤ reference, p e → ∃ c ∈ candidates, c ≤ reference ∧ e ≤ c) :
    FindsLatest reference p (firstNotAfter reference candidates) where
  ok_iff d := by
    rw [firstNotAfter_eq_ok_iff hdesc]
    constructor
    · rintro ⟨⟨hd, hle⟩, hgreatest⟩
      refine ⟨⟨hle, hp d hd⟩, ?_⟩
      rintro e ⟨he, hpe⟩
      obtain ⟨c, hc, hcle, hec⟩ := hreach e he hpe
      exact e.le_trans hec (hgreatest ⟨hc, hcle⟩)
    · rintro ⟨⟨hle, hpd⟩, hgreatest⟩
      obtain ⟨c, hc, hcle, hdc⟩ := hreach d hle hpd
      have hcd : c ≤ d := hgreatest ⟨hcle, hp c hc⟩
      obtain rfl := Date.le_antisymm hdc hcd
      refine ⟨⟨hc, hle⟩, ?_⟩
      rintro e ⟨he, hele⟩
      exact hgreatest ⟨hele, hp e he⟩
  error_iff error := by
    rw [firstNotAfter_eq_error_iff]
    refine and_congr_right fun _ => ⟨?_, ?_⟩
    · intro hnone e he hpe
      obtain ⟨c, hc, hcle, _⟩ := hreach e he hpe
      exact hnone c hc hcle
    · intro hnone c hc hle
      exact hnone c hle (hp c hc)

/-! ## How far back the latest date lies -/

/-- Of two months in a row one has 31 days. -/
theorem monthLength_eq_31_or (n : Int) :
    monthLength (n / 12) (n % 12 + 1) = 31 ∨
      monthLength ((n - 1) / 12) ((n - 1) % 12 + 1) = 31 := by
  have hlong : ∀ y m : Int, m ≠ 2 → ¬ (m = 4 ∨ m = 6 ∨ m = 9 ∨ m = 11) → monthLength y m = 31 := by
    intro y m h2 h
    rw [monthLength, if_neg h2, if_neg h]
  by_cases h : n % 12 + 1 = 2 ∨ n % 12 + 1 = 4 ∨ n % 12 + 1 = 6 ∨ n % 12 + 1 = 9 ∨ n % 12 + 1 = 11
  · exact .inr (hlong _ _ (by omega) (by omega))
  · exact .inl (hlong _ _ (by omega) (by omega))

/-- Of eight years in a row one is a leap year: of two years that 4 divides, at most one is a
century. -/
theorem exists_isLeap (year : Int) : ∃ y, year - 8 ≤ y ∧ y < year ∧ IsLeap y := by
  let y := (year - 1) / 4 * 4
  have hy : y % 4 = 0 := by omega
  have hlow : year - 4 ≤ y := by omega
  have hhigh : y < year := by omega
  by_cases hcentury : y % 100 = 0
  · exact ⟨y - 4, by omega, by omega, by omega, .inl (by omega)⟩
  · exact ⟨y, by omega, hhigh, hy, .inl hcentury⟩

theorem monthLength_two_le (y : Int) : monthLength y 2 ≤ 29 := by
  rw [monthLength, if_pos rfl]
  split <;> omega

/-- Only the length of February depends on the year. -/
theorem monthLength_eq_of_ne {month : Int} (h : month ≠ 2) (y y' : Int) :
    monthLength y month = monthLength y' month := by
  rw [monthLength, if_neg h, monthLength, if_neg h]

namespace Date

variable {e reference : Date}

/-- Between two dates the day of the first is found again in every month of 31 days. -/
theorem exists_of_month (e reference : Date) {n : Int} (hlow : e.monthNumber < n)
    (hhigh : n < reference.monthNumber) (hlength : monthLength (n / 12) (n % 12 + 1) = 31) :
    ∃ c : Date, c.day = e.day ∧ e ≤ c ∧ c ≤ reference ∧ c.monthNumber = n := by
  have hfirst := e.monthNumber_bounds
  have hlast := reference.monthNumber_bounds
  have hyear : minYear ≤ n / 12 ∧ n / 12 ≤ maxYear := by
    unfold minYear maxYear
    omega
  obtain ⟨c, rfl, hday⟩ := exists_of_monthNumber hyear (hlength ▸ e.day_bounds)
  exact ⟨c, hday, le_of_monthNumber_lt hlow, le_of_monthNumber_lt hhigh, rfl⟩

/-- Before the reference the day of a date is found in the last three months, on that date or
later. -/
theorem exists_recent_of_day (h : e ≤ reference) :
    ∃ c : Date, c.day = e.day ∧ e ≤ c ∧ c ≤ reference ∧
      reference.monthNumber - 3 < c.monthNumber := by
  by_cases hnear : reference.monthNumber - 3 < e.monthNumber
  · exact ⟨e, rfl, e.le_refl, h, hnear⟩
  · rcases monthLength_eq_31_or (reference.monthNumber - 1) with h31 | h31
    · obtain ⟨c, hday, hle, hle', hmonth⟩ := exists_of_month e reference (by omega) (by omega) h31
      exact ⟨c, hday, hle, hle', by omega⟩
    · obtain ⟨c, hday, hle, hle', hmonth⟩ := exists_of_month e reference (by omega) (by omega) h31
      exact ⟨c, hday, hle, hle', by omega⟩

/-- Between two dates the day and month of the first are found again in every year that has
them. -/
theorem exists_of_year (e reference : Date) {y : Int} (hlow : e.year < y)
    (hhigh : y < reference.year) (hday : e.day ≤ monthLength y e.month) :
    ∃ c : Date, (c.month = e.month ∧ c.day = e.day) ∧ e ≤ c ∧ c ≤ reference ∧ c.year = y := by
  have hyear : minYear ≤ y ∧ y ≤ maxYear := by
    have hfirst := e.year_bounds
    have hlast := reference.year_bounds
    unfold minYear maxYear
    omega
  refine ⟨⟨y, e.month, e.day, hyear, e.month_bounds, e.day_bounds.1, hday⟩, ⟨rfl, rfl⟩, ?_, ?_, rfl⟩
  · exact le_of_year_lt hlow
  · exact le_of_year_lt hhigh

/-- Before the reference the day and month of a date other than 29 February are found in the last
two years, on that date or later. -/
theorem exists_recent_of_ordinary (h : e ≤ reference) (hleap : ¬ (e.month = 2 ∧ e.day = 29)) :
    ∃ c : Date, (c.month = e.month ∧ c.day = e.day) ∧ e ≤ c ∧ c ≤ reference ∧
      reference.year - 2 < c.year := by
  by_cases hnear : reference.year - 2 < e.year
  · exact ⟨e, ⟨rfl, rfl⟩, e.le_refl, h, hnear⟩
  · have hlength : e.day ≤ monthLength (reference.year - 1) e.month := by
      have hvalid : e.day ≤ monthLength e.year e.month := e.valid.2.2.2
      by_cases hfeb : e.month = 2
      · have hshort : monthLength e.year e.month ≤ 29 := by
          rw [hfeb]
          exact monthLength_two_le e.year
        have hlong := monthLength_bounds (reference.year - 1) e.month
        omega
      · rwa [monthLength_eq_of_ne hfeb _ e.year]
    obtain ⟨c, hc, hle, hle', hyear⟩ := exists_of_year e reference (by omega) (by omega) hlength
    exact ⟨c, hc, hle, hle', by omega⟩

/-- Before the reference the day and month of a date are found in the last nine years, on that date
or later. -/
theorem exists_recent_of_day_month (h : e ≤ reference) :
    ∃ c : Date, (c.month = e.month ∧ c.day = e.day) ∧ e ≤ c ∧ c ≤ reference ∧
      reference.year - 9 < c.year := by
  by_cases hleap : e.month = 2 ∧ e.day = 29
  · by_cases hnear : reference.year - 9 < e.year
    · exact ⟨e, ⟨rfl, rfl⟩, e.le_refl, h, hnear⟩
    · obtain ⟨y, hlow, hhigh, hy⟩ := exists_isLeap reference.year
      have hlength : e.day ≤ monthLength y e.month := by
        have hfeb : monthLength y 2 = 29 := by rw [monthLength, if_pos rfl, if_pos hy]
        rw [hleap.1]
        omega
      obtain ⟨c, hc, hle, hle', hyear⟩ := exists_of_year e reference (by omega) hhigh hlength
      exact ⟨c, hc, hle, hle', by omega⟩
  · obtain ⟨c, hc, hle, hle', hyear⟩ := exists_recent_of_ordinary h hleap
    exact ⟨c, hc, hle, hle', by omega⟩

end Date

end DatePrompt
