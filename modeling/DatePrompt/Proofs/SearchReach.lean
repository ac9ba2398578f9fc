import DatePrompt.Proofs.Completion
import Mathlib.Data.List.Nodup
import Mathlib.Data.List.Range

/-!
# How far a search has to reach

The months and the years of a search go back from the reference one by one, over a number of them
or to the beginning of the calendar (`stepsBack_recentMonths`, `stepsBack_recentYears`). The latest
date with a given day lies in one of the first three months, and the latest with a given day and
month in one of the first two years, or nine for 29 February. A search that goes back further
therefore comes to the same date (`DateParts.completeWithin_eq_complete`).
-/

namespace DatePrompt

/-! ## Going back -/

/-- The values go back one step at a time, over a number of them or down to the last there is. -/
structure StepsBack {α : Type} (before : α → α) (first last : α) (n : Nat) (values : List α) :
    Prop where
  starts : values.head? = some first
  steps : values.IsChain fun a b => b = before a
  nodup : values.Nodup
  /-- Nothing comes after the last value. -/
  ends : last ∉ values.dropLast
  length : values.length = n ∨ values.length < n ∧ values.getLast? = some last

section Range

variable {α : Type} {f : Nat → α} {p : α → Bool} {last : Nat}

/-- A sequence of which the values up to a place are kept ends there. -/
theorem filter_map_range (hp : ∀ k, p (f k) = true ↔ k ≤ last) (n : Nat) :
    ((List.range n).map f).filter p = (List.range (min n (last + 1))).map f := by
  induction n with
  | zero => simp
  | succ n ih =>
    rw [List.range_succ, List.map_append, List.filter_append, ih, List.map_singleton]
    by_cases hn : n ≤ last
    · have hmin : min n (last + 1) = n := by omega
      have hmin' : min (n + 1) (last + 1) = n + 1 := by omega
      rw [hmin, hmin', List.range_succ, List.map_append, List.map_singleton,
        List.filter_cons_of_pos ((hp n).mpr hn), List.filter_nil]
    · have hmin : min n (last + 1) = min (n + 1) (last + 1) := by omega
      rw [hmin, List.filter_cons_of_neg (mt (hp n).mp hn), List.filter_nil, List.append_nil]

theorem stepsBack_map_range (before : α → α) (hstep : ∀ k, f (k + 1) = before (f k))
    (hinj : Function.Injective f) {n : Nat} (hn : 0 < n) (last : Nat) :
    StepsBack before (f 0) (f last) n ((List.range (min n (last + 1))).map f) where
  starts := by
    have hpos : min n (last + 1) ≠ 0 := by omega
    rw [List.head?_map, List.head?_range, if_neg hpos, Option.map_some]
  steps := by
    rw [List.isChain_map, List.isChain_range]
    exact fun k _ => hstep k
  nodup := List.Nodup.map hinj List.nodup_range
  ends := by
    rw [List.dropLast_eq_take, List.length_map, List.length_range, ← List.map_take, List.take_range]
    intro h
    obtain ⟨k, hk, heq⟩ := List.mem_map.mp h
    have hlt := List.mem_range.mp hk
    rw [hinj heq] at hlt
    omega
  length := by
    rw [List.length_map, List.length_range]
    by_cases h : n ≤ last + 1
    · exact .inl (Nat.min_eq_left h)
    · have hmin : min n (last + 1) = last + 1 := by omega
      rw [hmin, List.getLast?_map, List.getLast?_range]
      exact .inr ⟨by omega, rfl⟩

end Range

/-! ## The years and the months of a search -/

/-- The month before. -/
def previousMonth (p : Int × Int) : Int × Int :=
  if p.2 = 1 then (p.1 - 1, 12) else (p.1, p.2 - 1)

namespace Date

variable (reference : Date)

/-- The year that lies a number of years back. -/
def yearBack (k : Nat) : Int := reference.year - k

theorem yearBack_zero : reference.yearBack 0 = reference.year := Int.sub_zero _

theorem yearBack_succ (k : Nat) : reference.yearBack (k + 1) = reference.yearBack k - 1 := by
  unfold yearBack
  omega

theorem yearBack_injective : Function.Injective reference.yearBack := by
  intro j k h
  unfold yearBack at h
  omega

/-- How many years of the calendar lie before that of the reference. -/
def yearsBefore : Nat := (reference.year - minYear).toNat

theorem yearBack_yearsBefore : reference.yearBack reference.yearsBefore = minYear := by
  have hyear := reference.year_bounds
  unfold yearBack yearsBefore minYear
  omega

theorem minYear_le_yearBack_iff (k : Nat) :
    decide (minYear ≤ reference.yearBack k) = true ↔ k ≤ reference.yearsBefore := by
  have hyear := reference.year_bounds
  rw [decide_eq_true_eq]
  unfold yearBack yearsBefore minYear
  omega

/-- The year and the month that lie a number of months back. -/
def monthBack (k : Nat) : Int × Int :=
  ((reference.monthNumber - k) / 12, (reference.monthNumber - k) % 12 + 1)

theorem monthBack_zero : reference.monthBack 0 = (reference.year, reference.month) := by
  have hmonth := reference.month_bounds
  unfold monthBack monthNumber
  exact Prod.ext (by dsimp only; omega) (by dsimp only; omega)

theorem monthBack_succ (k : Nat) :
    reference.monthBack (k + 1) = previousMonth (reference.monthBack k) := by
  unfold monthBack previousMonth
  dsimp only
  split
  · exact Prod.ext (by dsimp only; omega) (by dsimp only; omega)
  · exact Prod.ext (by dsimp only; omega) (by dsimp only; omega)

theorem monthBack_injective : Function.Injective reference.monthBack := by
  intro j k h
  obtain ⟨hyear, hmonth⟩ := Prod.mk.inj h
  omega

/-- How many months of the calendar lie before that of the reference. -/
def monthsBefore : Nat := (reference.monthNumber - first.monthNumber).toNat

theorem monthBack_monthsBefore : reference.monthBack reference.monthsBefore = (minYear, 1) := by
  have hbounds := reference.monthNumber_bounds
  have hfirst : first.monthNumber = 12 := rfl
  unfold monthBack monthsBefore minYear
  exact Prod.ext (by dsimp only; omega) (by dsimp only; omega)

theorem minYear_le_monthBack_iff (k : Nat) :
    decide (minYear ≤ (reference.monthBack k).1) = true ↔ k ≤ reference.monthsBefore := by
  have hbounds := reference.monthNumber_bounds
  have hfirst : first.monthNumber = 12 := rfl
  rw [decide_eq_true_eq]
  unfold monthBack monthsBefore minYear
  dsimp only
  omega

end Date

section Candidates

variable (n : Nat) (reference : Date)

theorem recentYears_eq : recentYears n reference =
    (List.range (min n (reference.yearsBefore + 1))).map reference.yearBack :=
  filter_map_range reference.minYear_le_yearBack_iff n

theorem recentMonths_eq : recentMonths n reference =
    (List.range (min n (reference.monthsBefore + 1))).map reference.monthBack :=
  filter_map_range reference.minYear_le_monthBack_iff n

theorem take_recentYears (k : Nat) :
    (recentYears n reference).take k = recentYears (min k n) reference := by
  rw [recentYears_eq, recentYears_eq, ← List.map_take, List.take_range, Nat.min_assoc]

theorem take_recentMonths (k : Nat) :
    (recentMonths n reference).take k = recentMonths (min k n) reference := by
  rw [recentMonths_eq, recentMonths_eq, ← List.map_take, List.take_range, Nat.min_assoc]

variable {n} (hn : 0 < n)
include hn

/-- The years of a search go back to the first of the calendar. -/
theorem stepsBack_recentYears :
    StepsBack (· - 1) reference.year minYear n (recentYears n reference) := by
  have h := stepsBack_map_range (· - 1) reference.yearBack_succ reference.yearBack_injective hn
    reference.yearsBefore
  rwa [← recentYears_eq, reference.yearBack_zero, reference.yearBack_yearsBefore] at h

/-- The months of a search go back to the first of the calendar. -/
theorem stepsBack_recentMonths :
    StepsBack previousMonth (reference.year, reference.month) (minYear, 1) n
      (recentMonths n reference) := by
  have h := stepsBack_map_range previousMonth reference.monthBack_succ
    reference.monthBack_injective hn reference.monthsBefore
  rwa [← recentMonths_eq, reference.monthBack_zero, reference.monthBack_monthsBefore] at h

end Candidates

/-- Before February of the first year there is only January. -/
example : recentMonths 12 ⟨1, 2, 10, by decide⟩ = [(1, 2), (1, 1)] := by decide

/-! ## How far back the latest date lies -/

namespace FindsLatest

variable {reference : Date} {p : Date → Prop} {outcome outcome' : Except DateError Date}

theorem exists_isGreatest (h : FindsLatest reference p outcome) (hp : ∃ e ≤ reference, p e) :
    ∃ d, IsGreatest {e | e ≤ reference ∧ p e} d := by
  obtain ⟨e, he, hpe⟩ := hp
  cases houtcome : outcome with
  | ok d => exact ⟨d, (h.ok_iff d).mp houtcome⟩
  | error error => exact absurd hpe (((h.error_iff error).mp houtcome).2 e he)

/-- If after every date with the property there is one beyond a place, the latest is beyond it. -/
theorem exists_isGreatest_after (h : FindsLatest reference p outcome)
    (hp : ∃ e ≤ reference, p e) {place : Date → Int}
    (hplace : ∀ {a b : Date}, a ≤ b → place a ≤ place b) {n : Int}
    (hrecent : ∀ e ≤ reference, p e → ∃ c ≤ reference, p c ∧ n < place c) :
    ∃ d, IsGreatest {e | e ≤ reference ∧ p e} d ∧ n < place d := by
  obtain ⟨d, hd⟩ := h.exists_isGreatest hp
  obtain ⟨c, hcle, hc, hn⟩ := hrecent d hd.1.1 hd.1.2
  have hcd : place c ≤ place d := hplace (hd.2 ⟨hcle, hc⟩)
  exact ⟨d, hd, Int.lt_of_lt_of_le hn hcd⟩

theorem unique (h : FindsLatest reference p outcome) (h' : FindsLatest reference p outcome') :
    outcome = outcome' := by
  cases houtcome : outcome with
  | ok d => exact ((h'.ok_iff d).mpr ((h.ok_iff d).mp houtcome)).symm
  | error error => exact ((h'.error_iff error).mpr ((h.error_iff error).mp houtcome)).symm

end FindsLatest

section Reach

variable {reference : Date} {month day : Int}

/-- The latest date with a day lies in the last three months. -/
theorem exists_latest_of_day (h : ∃ e ≤ reference, e.day = day) :
    ∃ d, IsGreatest {e | e ≤ reference ∧ e.day = day} d ∧
      reference.monthNumber - 3 < d.monthNumber := by
  have hday : Component.day.InRange day := by
    obtain ⟨e, _, rfl⟩ := h
    exact e.day_bounds
  have hfinds : FindsLatest reference (fun e => e.day = day)
      (DateParts.complete ⟨some day, none, none⟩ reference) :=
    DateParts.findsLatest_of_day hday (by decide) reference
  refine hfinds.exists_isGreatest_after h Date.monthNumber_le_of_le ?_
  rintro e he rfl
  obtain ⟨c, hc, _, hcle, hnear⟩ := Date.exists_recent_of_day he
  exact ⟨c, hcle, hc, hnear⟩

/-- How many years hold the latest date with a month and a day. -/
def yearsOf (month day : Int) : Nat := if month = 2 ∧ day = 29 then 9 else 2

theorem yearsOf_le (month day : Int) : yearsOf month day ≤ DateParts.yearsBack := by
  unfold yearsOf
  split <;> decide

theorem Date.exists_recent_of_yearsOf {e : Date} (h : e ≤ reference) :
    ∃ c ≤ reference, (c.month = e.month ∧ c.day = e.day) ∧
      reference.year - yearsOf e.month e.day < c.year := by
  unfold yearsOf
  split
  · obtain ⟨c, hc, _, hle, hnear⟩ := exists_recent_of_day_month h
    exact ⟨c, hle, hc, hnear⟩
  · rename_i hleap
    obtain ⟨c, hc, _, hle, hnear⟩ := exists_recent_of_ordinary h hleap
    exact ⟨c, hle, hc, hnear⟩

theorem exists_latest_of_day_month (h : ∃ e ≤ reference, e.month = month ∧ e.day = day) :
    ∃ d, IsGreatest {e | e ≤ reference ∧ e.month = month ∧ e.day = day} d ∧
      reference.year - yearsOf month day < d.year := by
  have hrange : Component.day.InRange day ∧ Component.month.InRange month := by
    obtain ⟨e, _, rfl, rfl⟩ := h
    exact ⟨e.day_bounds, e.month_bounds⟩
  have hfinds : FindsLatest reference (fun e => e.month = month ∧ e.day = day)
      (DateParts.complete ⟨some day, some month, none⟩ reference) :=
    DateParts.findsLatest_of_day_month hrange.1 hrange.2 (by decide) reference
  refine hfinds.exists_isGreatest_after h Date.year_le_of_le ?_
  rintro e he ⟨rfl, rfl⟩
  exact Date.exists_recent_of_yearsOf he

end Reach

theorem Date.isLeap_of_leap_day (d : Date) (hmonth : d.month = 2) (hday : d.day = 29) :
    IsLeap d.year := by
  have hvalid : d.day ≤ monthLength d.year d.month := d.valid.2.2.2
  rw [hmonth, hday, monthLength, if_pos rfl] at hvalid
  by_contra hleap
  rw [if_neg hleap] at hvalid
  omega

/-! ## Going back further -/

namespace DateParts

variable {years months : Nat} (hyears : 9 ≤ years) (hmonths : 3 ≤ months) (parts : DateParts)
  (reference : Date)
include hyears hmonths

theorem attemptWithin_eq_attempt :
    parts.attemptWithin years months reference = parts.attempt reference := by
  unfold attempt
  cases parts.checked with
  | incompletable hs =>
    rw [attemptWithin_of_not_completable hs, attemptWithin_of_not_completable hs]
  | dayOutside hs hday =>
    rw [attemptWithin_of_day_outside hs rfl hday, attemptWithin_of_day_outside hs rfl hday]
  | monthOutside hday hmonth =>
    rw [attemptWithin_of_month_outside hday hmonth, attemptWithin_of_month_outside hday hmonth]
  | @search day month? hday hmonth =>
    -- both searches are wide enough, so that they find the same date or say that there is none
    have hyearsBack : 9 ≤ yearsBack := by decide
    have hmonthsBack : 3 ≤ monthsBack := by decide
    rw [← mapError_completeWithin, ← mapError_completeWithin]
    cases month? with
    | none =>
      rw [(findsLatest_of_day hday hmonths reference).unique
        (findsLatest_of_day hday hmonthsBack reference)]
    | some month =>
      have hmonth := hmonth month rfl
      rw [(findsLatest_of_day_month hday hmonth hyears reference).unique
        (findsLatest_of_day_month hday hmonth hyearsBack reference)]
  | full hday hmonth => rw [attemptWithin_full hday hmonth, attemptWithin_full hday hmonth]

theorem completeWithin_eq_complete :
    parts.completeWithin years months reference = parts.complete reference := by
  refine mapError_raised_inj ?_
  rw [mapError_completeWithin, mapError_complete, attemptWithin_eq_attempt hyears hmonths]

end DateParts

/-- The months and the years of a search go back from the reference without a gap. The latest date
with a day lies in one of the first three months, the latest with a day and a month in one of the
first two years, or nine for 29 February, and to go back further never changes what parts mean. -/
theorem search_reach_suffices (reference : Date) :
    let months := recentMonths DateParts.monthsBack reference
    let years := recentYears DateParts.yearsBack reference
    StepsBack previousMonth (reference.year, reference.month) (1, 1) 12 months ∧
    StepsBack (· - 1) reference.year 1 9 years ∧
    (∀ day, (∃ e ≤ reference, e.day = day) →
      ∃ d, IsGreatest {e | e ≤ reference ∧ e.day = day} d ∧ (d.year, d.month) ∈ months.take 3) ∧
    (∀ month day, (∃ e ≤ reference, e.month = month ∧ e.day = day) →
      ∃ d, IsGreatest {e | e ≤ reference ∧ e.month = month ∧ e.day = day} d ∧
        d.year ∈ years.take (if month = 2 ∧ day = 29 then 9 else 2)) ∧
    ∀ (years' months' : Nat) (parts : DateParts),
      DateParts.yearsBack ≤ years' → DateParts.monthsBack ≤ months' →
      parts.completeWithin years' months' reference = parts.complete reference := by
  intro months years
  refine ⟨stepsBack_recentMonths reference (by decide), stepsBack_recentYears reference (by decide),
    ?_, ?_, ?_⟩
  · intro day h
    obtain ⟨d, hd, hnear⟩ := exists_latest_of_day h
    have hbefore := Date.monthNumber_le_of_le hd.1.1
    refine ⟨d, hd, ?_⟩
    rw [take_recentMonths, mem_recentMonths]
    exact ⟨d.month_bounds, d.year_bounds.1, hnear, hbefore⟩
  · intro month day h
    obtain ⟨d, hd, hnear⟩ := exists_latest_of_day_month h
    have hbefore := Date.year_le_of_le hd.1.1
    refine ⟨d, hd, ?_⟩
    change d.year ∈ years.take (yearsOf month day)
    rw [take_recentYears, mem_recentYears, Nat.min_eq_left (yearsOf_le month day)]
    exact ⟨d.year_bounds.1, hnear, hbefore⟩
  · intro years' months' parts hyears hmonths
    exact DateParts.completeWithin_eq_complete hyears (Nat.le_trans (by decide) hmonths) parts
      reference

/-- All of the three months are needed from the first of March, if the day is the 30th. All of the
nine years are needed from the day before the leap day of 1904, as 1900 was no leap year. -/
theorem search_reach_suffices_leap_day :
    let march : Date := ⟨2015, 3, 1, by decide⟩
    let february : Date := ⟨1904, 2, 28, by decide⟩
    let months := recentMonths DateParts.monthsBack march
    let years := recentYears DateParts.yearsBack february
    (∃ e ≤ march, e.day = 30) ∧
    (∃ d, IsGreatest {e | e ≤ march ∧ e.day = 30} d ∧
      (d.year, d.month) ∈ months.take 3 ∧ (d.year, d.month) ∉ months.take 2) ∧
    (∃ e ≤ february, e.month = 2 ∧ e.day = 29) ∧
    (∃ d, IsGreatest {e | e ≤ february ∧ e.month = 2 ∧ e.day = 29} d ∧
      d.year ∈ years.take 9 ∧ d.year ∉ years.take 8) ∧
    DateParts.completeWithin 20 12 ⟨some 29, some 2, none⟩ february =
      .ok ⟨1896, 2, 29, by decide⟩ := by
  intro march february months years
  obtain ⟨_, _, hofDay, _, _⟩ := search_reach_suffices march
  obtain ⟨_, _, _, hofDayMonth, hfurther⟩ := search_reach_suffices february
  have hday : ∃ e ≤ march, e.day = 30 := ⟨⟨2015, 1, 30, by decide⟩, by decide, rfl⟩
  have hleap : ∃ e ≤ february, e.month = 2 ∧ e.day = 29 :=
    ⟨⟨1896, 2, 29, by decide⟩, by decide, rfl, rfl⟩
  refine ⟨hday, ?_, hleap, ?_, hfurther 20 12 _ (by decide) (by decide)⟩
  · obtain ⟨d, hd, hmem⟩ := hofDay 30 hday
    refine ⟨d, hd, hmem, fun hnear => ?_⟩
    obtain ⟨⟨hle, h30⟩, _⟩ := hd
    rw [take_recentMonths, mem_recentMonths] at hnear
    obtain ⟨hmonth, _, hlow, _⟩ := hnear
    have hlow : 12 * 2015 < 12 * d.year + (d.month - 1) := hlow
    have hhigh : d.year < 2015 ∨ d.year = 2015 ∧ (d.month < 3 ∨ d.month = 3 ∧ d.day ≤ 1) := hle
    have hfebruary : d.month = 2 := by omega
    have hshort := monthLength_two_le d.year
    have hvalid : d.day ≤ monthLength d.year d.month := d.valid.2.2.2
    rw [hfebruary] at hvalid
    omega
  · obtain ⟨d, hd, hmem⟩ := hofDayMonth 2 29 hleap
    refine ⟨d, hd, hmem, fun hnear => ?_⟩
    obtain ⟨⟨hle, hmonth, hday⟩, _⟩ := hd
    have hisLeap := d.isLeap_of_leap_day hmonth hday
    rw [take_recentYears, mem_recentYears] at hnear
    have hlow : 1896 < d.year := hnear.2.1
    have hhigh : d.year < 1904 ∨ d.year = 1904 ∧ (d.month < 2 ∨ d.month = 2 ∧ d.day ≤ 28) := hle
    unfold IsLeap at hisLeap
    omega

end DatePrompt
