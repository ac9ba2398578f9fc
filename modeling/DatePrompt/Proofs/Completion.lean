import DatePrompt.Proofs.LatestDate

/-!
# Completing the parts of a date

Parts complete to a date iff they have a shape that can be completed and the date has all of them,
the year being given or the date being the latest such date on or before the reference
(`DateParts.complete_eq_ok_iff`). So the parts of a date lead back to it, seen from itself.
-/

namespace DatePrompt

/-- The value of a component. -/
def Date.component (d : Date) : Component → Int
  | .day => d.day
  | .month => d.month
  | .year => d.year

/-- The parts of a date that belong to a shape. -/
def Date.partsIn (d : Date) (s : Shape) : DateParts where
  day := if s.day then some d.day else none
  month := if s.month then some d.month else none
  year := if s.year then some d.year else none

/-- Whether the date has all the parts. -/
def Date.Has (d : Date) (parts : DateParts) : Prop :=
  ∀ c n, parts.get? c = some n → d.component c = n

namespace Date

theorem inRange_component (d : Date) (c : Component) : c.InRange (d.component c) := by
  cases c with
  | day => exact d.day_bounds
  | month => exact d.month_bounds
  | year => exact d.year_bounds

theorem get?_partsIn (d : Date) (s : Shape) (c : Component) :
    (d.partsIn s).get? c = if s.has c then some (d.component c) else none := by
  cases c <;> rfl

theorem shape_partsIn (d : Date) (s : Shape) : (d.partsIn s).shape = s := by
  obtain ⟨day, month, year⟩ := s
  cases day <;> cases month <;> cases year <;> rfl

theorem has_partsIn (d : Date) (s : Shape) : d.Has (d.partsIn s) := by
  intro c n h
  rw [get?_partsIn] at h
  split at h
  · exact Option.some.inj h
  · cases h

variable {d : Date} {parts : DateParts}

theorem Has.inRange (h : d.Has parts) {c : Component} {n : Int} (hc : parts.get? c = some n) :
    c.InRange n := by
  rw [← h c n hc]
  exact d.inRange_component c

theorem has_iff : d.Has parts ↔
    (∀ n, parts.day = some n → d.day = n) ∧ (∀ n, parts.month = some n → d.month = n) ∧
      ∀ n, parts.year = some n → d.year = n := by
  constructor
  · intro h
    exact ⟨h .day, h .month, h .year⟩
  · rintro ⟨hday, hmonth, hyear⟩ (_ | _ | _)
    · exact hday
    · exact hmonth
    · exact hyear

end Date

namespace DateParts

theorem complete_of_not_completable {parts : DateParts} (h : ¬ parts.shape.Completable)
    (reference : Date) : parts.complete reference = .error (.incompletable parts.shape) :=
  completeWithin_eq_of_attempt (attemptWithin_of_not_completable h reference)

/-! ## Parts in range -/

section InRange

variable {years months : Nat} {day month year : Int} (hday : Component.day.InRange day)
include hday

theorem completeWithin_day (reference : Date) :
    completeWithin years months ⟨some day, none, none⟩ reference =
      firstNotAfter reference
        ((recentMonths months reference).filterMap fun (y, m) => Date.ofParts? y m day) :=
  completeWithin_eq_of_attempt (attemptWithin_day hday reference)

theorem findsLatest_of_day (hmonths : 3 ≤ months) (reference : Date) :
    FindsLatest reference (fun e => e.day = day)
      (completeWithin years months ⟨some day, none, none⟩ reference) := by
  rw [completeWithin_day hday]
  refine findsLatest_firstNotAfter monthCandidates_pairwise ?_ ?_
  · intro c hc
    exact (mem_monthCandidates.mp hc).1
  · rintro e he rfl
    obtain ⟨c, hc, hec, hle, hnear⟩ := Date.exists_recent_of_day he
    have hbefore := Date.monthNumber_le_of_le hle
    exact ⟨c, mem_monthCandidates.mpr ⟨hc, by omega, hbefore⟩, hle, hec⟩

variable (hmonth : Component.month.InRange month)
include hmonth

theorem completeWithin_day_month (reference : Date) :
    completeWithin years months ⟨some day, some month, none⟩ reference =
      firstNotAfter reference
        ((recentYears years reference).filterMap fun y => Date.ofParts? y month day) :=
  completeWithin_eq_of_attempt (attemptWithin_day_month hday hmonth reference)

theorem findsLatest_of_day_month (hyears : 9 ≤ years) (reference : Date) :
    FindsLatest reference (fun e => e.month = month ∧ e.day = day)
      (completeWithin years months ⟨some day, some month, none⟩ reference) := by
  rw [completeWithin_day_month hday hmonth]
  refine findsLatest_firstNotAfter yearCandidates_pairwise ?_ ?_
  · intro c hc
    exact (mem_yearCandidates.mp hc).1
  · rintro e he ⟨rfl, rfl⟩
    obtain ⟨c, hc, hec, hle, hnear⟩ := Date.exists_recent_of_day_month he
    have hbefore := Date.year_le_of_le hle
    exact ⟨c, mem_yearCandidates.mpr ⟨hc, by omega, hbefore⟩, hle, hec⟩

/-- A full date is not searched for. -/
theorem complete_full (reference : Date) :
    complete ⟨some day, some month, some year⟩ reference =
      match Date.ofParts? year month day with
      | some d => .ok d
      | none => .error (.invalid year month day) :=
  completeWithin_eq_of_attempt (attemptWithin_full hday hmonth reference)

theorem complete_full_eq_ok_iff {reference d : Date} :
    complete ⟨some day, some month, some year⟩ reference = .ok d ↔
      d.Has ⟨some day, some month, some year⟩ := by
  have hhas : d.Has ⟨some day, some month, some year⟩ ↔
      d.year = year ∧ d.month = month ∧ d.day = day := by
    rw [Date.has_iff]
    simp [eq_comm, and_comm, and_assoc]
  rw [complete_full hday hmonth, hhas, ← Date.ofParts?_eq_some]
  cases Date.ofParts? year month day <;> simp

theorem complete_full_eq_error_iff {reference : Date} {e : DateError} :
    complete ⟨some day, some month, some year⟩ reference = .error e ↔
      e = .invalid year month day ∧ ¬ ValidDate year month day := by
  rw [complete_full hday hmonth, ← Date.ofParts?_eq_none]
  cases Date.ofParts? year month day <;> simp [eq_comm]

end InRange

/-- Without a year the parts stand for the latest date that has them. -/
theorem findsLatest_complete {parts : DateParts} {day : Int} (hday : parts.day = some day)
    (hrange : Component.day.InRange day)
    (hmonth : ∀ m, parts.month = some m → Component.month.InRange m) (hyear : parts.year = none)
    (reference : Date) :
    FindsLatest reference (fun e => e.Has parts) (parts.complete reference) := by
  obtain ⟨_, month?, _⟩ := parts
  cases hday
  cases hyear
  cases month? with
  | none =>
    have hhas : ∀ e : Date, e.Has ⟨some day, none, none⟩ ↔ e.day = day := by
      intro e
      simp [Date.has_iff, eq_comm]
    simp only [hhas]
    exact findsLatest_of_day hrange (by decide) reference
  | some month =>
    have hhas : ∀ e : Date, e.Has ⟨some day, some month, none⟩ ↔ e.month = month ∧ e.day = day := by
      intro e
      simp [Date.has_iff, and_comm, eq_comm]
    simp only [hhas]
    exact findsLatest_of_day_month hrange (hmonth month rfl) (by decide) reference

/-! ## All parts -/

theorem complete_of_day_outside {day : Int} {month? year? : Option Int}
    (hs : (DateParts.mk (some day) month? year?).shape.Completable)
    (hday : ¬ Component.day.InRange day) (reference : Date) :
    complete ⟨some day, month?, year?⟩ reference = .error (.outside .day day) :=
  completeWithin_eq_of_attempt (attemptWithin_of_day_outside hs rfl hday reference)

theorem complete_of_month_outside {day month : Int} {year? : Option Int}
    (hday : Component.day.InRange day) (hmonth : ¬ Component.month.InRange month)
    (reference : Date) :
    complete ⟨some day, some month, year?⟩ reference = .error (.outside .month month) :=
  completeWithin_eq_of_attempt (attemptWithin_of_month_outside hday hmonth year? reference)

/-- A date is what the parts mean if it has them all and, unless the year is given, is the latest
such date on or before the reference. -/
theorem complete_eq_ok_iff {parts : DateParts} {reference d : Date} :
    parts.complete reference = .ok d ↔ parts.shape.Completable ∧ d.Has parts ∧
      (parts.year = none → d ≤ reference ∧ ∀ e ≤ reference, e.Has parts → e ≤ d) := by
  cases parts.checked with
  | incompletable hs =>
    rw [complete_of_not_completable hs]
    constructor
    · intro h
      cases h
    · rintro ⟨hs', _⟩
      exact absurd hs' hs
  | dayOutside hs hday =>
    rw [complete_of_day_outside hs hday]
    constructor
    · intro h
      cases h
    · rintro ⟨_, hhas, _⟩
      exact absurd (hhas.inRange (c := .day) rfl) hday
  | monthOutside hday hmonth =>
    -- no date has a month out of range
    rw [complete_of_month_outside hday hmonth]
    constructor
    · intro h
      cases h
    · rintro ⟨_, hhas, _⟩
      exact absurd (hhas.inRange (c := .month) rfl) hmonth
  | search hday hmonth =>
    rw [(findsLatest_complete rfl hday hmonth rfl reference).ok_iff]
    constructor
    · rintro ⟨⟨hle, hhas⟩, hgreatest⟩
      exact ⟨completable_of_day _ _, hhas,
        fun _ => ⟨hle, fun e he hhas => hgreatest ⟨he, hhas⟩⟩⟩
    · rintro ⟨_, hhas, hlatest⟩
      obtain ⟨hle, hgreatest⟩ := hlatest rfl
      exact ⟨⟨hle, hhas⟩, fun e he => hgreatest e he.1 he.2⟩
  | full hday hmonth =>
    rw [complete_full_eq_ok_iff hday hmonth]
    constructor
    · intro hhas
      exact ⟨completable_of_all _ _ _, hhas, fun h => by cases h⟩
    · rintro ⟨_, hhas, _⟩
      exact hhas

/-- The parts mean a date iff there is one that has them, on or before the reference unless the year
is given, and their shape can be completed. -/
theorem exists_complete_eq_ok_iff {parts : DateParts} {reference : Date} :
    (∃ d, parts.complete reference = .ok d) ↔ parts.shape.Completable ∧
      ∃ d : Date, d.Has parts ∧ (parts.year = none → d ≤ reference) := by
  constructor
  · rintro ⟨d, h⟩
    obtain ⟨hs, hhas, hlatest⟩ := complete_eq_ok_iff.mp h
    exact ⟨hs, d, hhas, fun hyear => (hlatest hyear).1⟩
  · rintro ⟨hs, d, hhas, hle⟩
    cases hyear : parts.year with
    | some y =>
      refine ⟨d, complete_eq_ok_iff.mpr ⟨hs, hhas, fun hnone => ?_⟩⟩
      rw [hyear] at hnone
      cases hnone
    | none =>
      obtain ⟨day, hday⟩ := Option.isSome_iff_exists.mp (Shape.completable_iff.mp hs).1
      have hfinds := findsLatest_complete hday (hhas.inRange (c := .day) hday)
        (fun m hm => hhas.inRange (c := .month) hm) hyear reference
      cases hcomplete : parts.complete reference with
      | ok e => exact ⟨e, rfl⟩
      | error e =>
        obtain ⟨_, hnone⟩ := (hfinds.error_iff e).mp hcomplete
        exact absurd hhas (hnone d (hle hyear))

/-- Of a year, a month and a day in range only the day can be wrong. -/
theorem not_validDate_iff {year month day : Int} (hyear : Component.year.InRange year)
    (hmonth : Component.month.InRange month) (hday : Component.day.InRange day) :
    ¬ ValidDate year month day ↔ monthLength year month < day := by
  constructor
  · intro h
    refine Int.not_le.mp fun hle => h ?_
    exact ⟨hyear, hmonth, hday.1, hle⟩
  · intro hlong hvalid
    exact absurd hvalid.2.2.2 (Int.not_le.mpr hlong)

/-- Why parts whose values are in range mean no date. -/
inductive MeansNone (parts : DateParts) (reference : Date) : DateError → Prop
  | incompletable (h : ¬ parts.shape.Completable) :
      MeansNone parts reference (.incompletable parts.shape)
  | noneBefore (hs : parts.shape.Completable) (hyear : parts.year = none)
      (h : ∀ d ≤ reference, ¬ d.Has parts) : MeansNone parts reference (.noneBefore reference)
  | invalid {year month day : Int} (hparts : parts = ⟨some day, some month, some year⟩)
      (h : monthLength year month < day) : MeansNone parts reference (.invalid year month day)

/-- The errors of parts in range: the values themselves are never refused. -/
theorem complete_eq_error_iff {parts : DateParts}
    (hrange : ∀ c n, parts.get? c = some n → c.InRange n) {reference : Date} {e : DateError} :
    parts.complete reference = .error e ↔ parts.MeansNone reference e := by
  cases parts.checked with
  | incompletable hs =>
    rw [complete_of_not_completable hs]
    constructor
    · intro h
      cases h
      exact .incompletable hs
    · rintro (h | ⟨hs', _, _⟩ | ⟨rfl, _⟩)
      · rfl
      · exact absurd hs' hs
      · exact absurd (completable_of_all _ _ _) hs
  | dayOutside hs hday => exact absurd (hrange .day _ rfl) hday
  | monthOutside hday hmonth => exact absurd (hrange .month _ rfl) hmonth
  | @search day month? hday hmonth =>
    have hs := completable_of_day day month?
    rw [(findsLatest_complete rfl hday hmonth rfl reference).error_iff]
    constructor
    · rintro ⟨rfl, hnone⟩
      exact .noneBefore hs rfl hnone
    · rintro (h | ⟨_, _, hnone⟩ | ⟨⟨⟩⟩)
      · exact absurd hs h
      · exact ⟨rfl, hnone⟩
  | @full day month year hday hmonth =>
    have hs := completable_of_all day month year
    rw [complete_full_eq_error_iff hday hmonth,
      not_validDate_iff (hrange .year _ rfl) hmonth hday]
    constructor
    · rintro ⟨rfl, hlong⟩
      exact .invalid rfl hlong
    · rintro (h | ⟨_, ⟨⟩, _⟩ | ⟨⟨⟩, hlong⟩)
      · exact absurd hs h
      · exact ⟨rfl, hlong⟩

/-- The parts of a date in a completable shape lead back to the date. -/
theorem complete_partsIn (d : Date) {s : Shape} (hs : s.Completable) :
    (d.partsIn s).complete d = .ok d := by
  rw [complete_eq_ok_iff, d.shape_partsIn]
  exact ⟨hs, d.has_partsIn s, fun _ => ⟨d.le_refl, fun e he _ => he⟩⟩

/-- A full date stands for itself, whatever the reference. -/
theorem complete_partsIn_full (d reference : Date) :
    (d.partsIn .full).complete reference = .ok d := by
  rw [complete_eq_ok_iff, d.shape_partsIn]
  exact ⟨by decide, d.has_partsIn .full, fun h => by cases h⟩

end DateParts

/-- A day, or a day and a month, stand for the latest date on or before the reference that has
them. They stand for none only if there is no such date. -/
theorem completion_finds_latest {parts : DateParts} {day : Int} (hday : parts.day = some day)
    (hrange : Component.day.InRange day)
    (hmonth : ∀ m, parts.month = some m → Component.month.InRange m) (hyear : parts.year = none)
    (reference : Date) :
    (∀ d, parts.complete reference = .ok d ↔
      IsGreatest {e | e ≤ reference ∧ e.Has parts} d) ∧
    ∀ error, parts.complete reference = .error error ↔
      error = .noneBefore reference ∧ ∀ e ≤ reference, ¬ e.Has parts := by
  have h := DateParts.findsLatest_complete hday hrange hmonth hyear reference
  exact ⟨h.ok_iff, h.error_iff⟩

/-- The last 29 February before that of 1904 was eight years earlier, and the first of all was that
of the year 4. -/
theorem completion_finds_latest_leap_day :
    IsGreatest {e : Date | e ≤ ⟨1904, 2, 28, by decide⟩ ∧ e.Has ⟨some 29, some 2, none⟩}
      ⟨1896, 2, 29, by decide⟩ ∧
    ∀ e : Date, e ≤ ⟨4, 2, 28, by decide⟩ → ¬ e.Has ⟨some 29, some 2, none⟩ := by
  have hmonth : ∀ m, (⟨some 29, some 2, none⟩ : DateParts).month = some m →
      Component.month.InRange m := by
    rintro _ ⟨⟩
    decide
  have hlatest := @completion_finds_latest ⟨some 29, some 2, none⟩ 29 rfl (by decide) hmonth rfl
  constructor
  · exact ((hlatest ⟨1904, 2, 28, by decide⟩).1 _).mp rfl
  · exact (((hlatest ⟨4, 2, 28, by decide⟩).2 _).mp rfl).2

end DatePrompt
