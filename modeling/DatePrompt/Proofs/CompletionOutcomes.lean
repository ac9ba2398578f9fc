import DatePrompt.Proofs.Completion

/-!
# What completion comes to

The values of the parts may be any integers. As they are checked before the calendar is asked for
anything, completion ends with a date or with an error about the parts. Which of them it is depends
on the shape first, then on the day, then on the month: only parts that get as far as a year can
name a date that does not exist (`DateParts.complete_eq_invalid_iff`), and all others that fail name
no date at all.

The error tells the number that it is about. If that number is too long to be written, there is no
such error, and completion fails in another way (`DateParts.overlong_iff`). A number that was read
is never that long (`DateParts.attempt_of_writable`).
-/

namespace DatePrompt

/-! ## Numbers too long to be told -/

theorem Component.InRange.writable {c : Component} {n : Int} (h : c.InRange n) : Writable n := by
  have hlow : 1 ≤ n := h.1
  have hhigh : n ≤ 9999 := by
    refine Int.le_trans h.2 ?_
    cases c <;> decide
  exact writable_of_natAbs_lt (by omega)

namespace DateError

theorem kind_eq_or (e : DateError) :
    e.kind = "NoValidDateError" ∨
      e.kind = "InvalidCalendarDateError" ∧ ∃ year month day, e = .invalid year month day := by
  cases e with
  | invalid year month day => exact .inr ⟨rfl, year, month, day, rfl⟩
  | incompletable | outside | noneBefore => exact .inl rfl

theorem text?_outside_eq_none_iff {c : Component} {value : Int} :
    (outside c value).text? = none ↔ ¬ Writable value := by
  simp [text?]

theorem text?_invalid_eq_none_iff {year month day : Int} (hday : Component.day.InRange day)
    (hmonth : Component.month.InRange month) :
    (invalid year month day).text? = none ↔ ¬ Writable year := by
  simp [text?, hday.writable, hmonth.writable]

end DateError

namespace DateParts

variable {parts : DateParts} {reference : Date}

theorem attempt_eq_ok_iff {d : Date} :
    parts.attempt reference = .ok d ↔ parts.complete reference = .ok d := by
  rw [← mapError_complete]
  cases parts.complete reference with
  | ok d' =>
    constructor
    · rintro ⟨⟩
      rfl
    · rintro ⟨⟩
      rfl
  | error e =>
    constructor
    · rintro ⟨⟩
    · rintro ⟨⟩

theorem attempt_eq_error_iff {failure : CompletionError} :
    parts.attempt reference = .error failure ↔
      ∃ e, parts.complete reference = .error e ∧ .raised e = failure := by
  rw [← mapError_complete]
  cases parts.complete reference with
  | ok d =>
    constructor
    · intro h
      cases h
    · rintro ⟨e, ⟨⟩, _⟩
  | error e =>
    constructor
    · intro h
      exact ⟨e, rfl, Except.error.inj h⟩
    · rintro ⟨e', ⟨⟩, hraised⟩
      exact congrArg Except.error hraised

theorem attempt_eq_date_iff {e : DateError} :
    parts.attempt reference = .error (.date e) ↔
      parts.complete reference = .error e ∧ e.text?.isSome = true := by
  simp only [attempt_eq_error_iff, CompletionError.raised_eq_date_iff]
  constructor
  · rintro ⟨e', he, rfl, htext⟩
    exact ⟨he, htext⟩
  · rintro ⟨he, htext⟩
    exact ⟨e, he, rfl, htext⟩

theorem attempt_eq_unwritable_iff {e : DateError} :
    parts.attempt reference = .error (.unwritable e) ↔
      parts.complete reference = .error e ∧ e.text? = none := by
  simp only [attempt_eq_error_iff, CompletionError.raised_eq_unwritable_iff]
  constructor
  · rintro ⟨e', he, rfl, htext⟩
    exact ⟨he, htext⟩
  · rintro ⟨he, htext⟩
    exact ⟨e, he, rfl, htext⟩

/-- The number that the parts are refused for is too long to be written: the day if the shape is
completable, the month if the day is in range, or the year if both are. -/
inductive Overlong : DateParts → Prop
  | day {day : Int} {month? year? : Option Int}
      (hs : (DateParts.mk (some day) month? year?).shape.Completable) (hlong : ¬ Writable day) :
      Overlong ⟨some day, month?, year?⟩
  | month {day month : Int} {year? : Option Int} (hday : Component.day.InRange day)
      (hlong : ¬ Writable month) : Overlong ⟨some day, some month, year?⟩
  | year {day month year : Int} (hday : Component.day.InRange day)
      (hmonth : Component.month.InRange month) (hlong : ¬ Writable year) :
      Overlong ⟨some day, some month, some year⟩

theorem not_overlong (h : ∀ c n, parts.get? c = some n → Writable n) : ¬ parts.Overlong := by
  intro hoverlong
  cases hoverlong with
  | day hs hlong => exact hlong (h .day _ rfl)
  | month hday hlong => exact hlong (h .month _ rfl)
  | year hday hmonth hlong => exact hlong (h .year _ rfl)

/-- Completion fails to write its error iff the number that it would tell is too long. -/
theorem overlong_iff :
    parts.Overlong ↔ ∃ e, parts.attempt reference = .error (.unwritable e) := by
  simp only [attempt_eq_unwritable_iff]
  constructor
  · intro hoverlong
    cases hoverlong with
    | day hs hlong =>
      have hout : ¬ Component.day.InRange _ := mt Component.InRange.writable hlong
      exact ⟨_, complete_of_day_outside hs hout reference,
        DateError.text?_outside_eq_none_iff.mpr hlong⟩
    | month hday hlong =>
      have hout : ¬ Component.month.InRange _ := mt Component.InRange.writable hlong
      exact ⟨_, complete_of_month_outside hday hout reference,
        DateError.text?_outside_eq_none_iff.mpr hlong⟩
    | year hday hmonth hlong =>
      have hout : ¬ Component.year.InRange _ := mt Component.InRange.writable hlong
      exact ⟨_, (complete_full_eq_error_iff hday hmonth).mpr ⟨rfl, fun hvalid => hout hvalid.1⟩,
        (DateError.text?_invalid_eq_none_iff hday hmonth).mpr hlong⟩
  · rintro ⟨e, hfailed, htext⟩
    cases parts.checked with
    | incompletable hs =>
      rw [complete_of_not_completable hs] at hfailed
      cases hfailed
      cases htext
    | dayOutside hs hday =>
      rw [complete_of_day_outside hs hday] at hfailed
      cases hfailed
      exact .day hs (DateError.text?_outside_eq_none_iff.mp htext)
    | monthOutside hday hmonth =>
      rw [complete_of_month_outside hday hmonth] at hfailed
      cases hfailed
      exact .month hday (DateError.text?_outside_eq_none_iff.mp htext)
    | search hday hmonth =>
      rw [(findsLatest_complete rfl hday hmonth rfl reference).error_iff] at hfailed
      obtain ⟨rfl, -⟩ := hfailed
      cases htext
    | full hday hmonth =>
      obtain ⟨rfl, -⟩ := (complete_full_eq_error_iff hday hmonth).mp hfailed
      exact .year hday hmonth ((DateError.text?_invalid_eq_none_iff hday hmonth).mp htext)

/-- Parts that are refused without a number too long are refused with an error that is told. -/
theorem attempt_of_not_overlong (h : ¬ parts.Overlong) :
    parts.attempt reference = (parts.complete reference).mapError .date := by
  cases hcomplete : parts.complete reference with
  | ok d => exact attempt_eq_ok_iff.mpr hcomplete
  | error e =>
    refine attempt_eq_date_iff.mpr ⟨hcomplete, Option.ne_none_iff_isSome.mp fun htext => h ?_⟩
    exact overlong_iff.mpr ⟨e, attempt_eq_unwritable_iff.mpr ⟨hcomplete, htext⟩⟩

theorem attempt_of_writable (h : ∀ c n, parts.get? c = some n → Writable n) :
    parts.attempt reference = (parts.complete reference).mapError .date :=
  attempt_of_not_overlong (not_overlong h)

theorem attempt_eq_date_iff_of_not_overlong (h : ¬ parts.Overlong) {e : DateError} :
    parts.attempt reference = .error (.date e) ↔ parts.complete reference = .error e := by
  refine ⟨fun hattempt => (attempt_eq_date_iff.mp hattempt).1, fun hcomplete => ?_⟩
  rw [attempt_of_not_overlong h, hcomplete]
  rfl

/-! ## Which error it is -/

/-- With a day and a month in range a date can only fail to exist for its year or for the length of
its month. -/
theorem not_validDate_iff_of_inRange {year month day : Int} (hmonth : Component.month.InRange month)
    (hday : Component.day.InRange day) :
    ¬ ValidDate year month day ↔
      ¬ Component.year.InRange year ∨ monthLength year month < day := by
  by_cases hyear : Component.year.InRange year
  · rw [not_validDate_iff hyear hmonth hday]
    exact (or_iff_right (not_not_intro hyear)).symm
  · exact iff_of_true (fun hvalid => hyear hvalid.1) (.inl hyear)

theorem complete_eq_invalid_iff {year month day : Int} :
    parts.complete reference = .error (.invalid year month day) ↔
      parts = ⟨some day, some month, some year⟩ ∧ Component.day.InRange day ∧
        Component.month.InRange month ∧
        (¬ Component.year.InRange year ∨ monthLength year month < day) := by
  cases parts.checked with
  | incompletable hs =>
    rw [complete_of_not_completable hs]
    refine iff_of_false (fun h => by cases h) ?_
    rintro ⟨rfl, _⟩
    exact hs (completable_of_all _ _ _)
  | dayOutside hs hday =>
    rw [complete_of_day_outside hs hday]
    refine iff_of_false (fun h => by cases h) ?_
    rintro ⟨⟨⟩, hday', _⟩
    exact hday hday'
  | monthOutside hday hmonth =>
    rw [complete_of_month_outside hday hmonth]
    refine iff_of_false (fun h => by cases h) ?_
    rintro ⟨⟨⟩, _, hmonth', _⟩
    exact hmonth hmonth'
  | search hday hmonth =>
    rw [(findsLatest_complete rfl hday hmonth rfl reference).error_iff]
    refine iff_of_false ?_ ?_
    · rintro ⟨⟨⟩, _⟩
    · rintro ⟨⟨⟩, _⟩
  | full hday hmonth =>
    rw [complete_full_eq_error_iff hday hmonth]
    constructor
    · rintro ⟨⟨⟩, hvalid⟩
      exact ⟨rfl, hday, hmonth, (not_validDate_iff_of_inRange hmonth hday).mp hvalid⟩
    · rintro ⟨⟨⟩, _, _, hexists⟩
      exact ⟨rfl, (not_validDate_iff_of_inRange hmonth hday).mpr hexists⟩

/-- A shape that cannot be completed, a day out of range and a month out of range are refused before
a date is sought. -/
theorem complete_of_unusable
    (h : ¬ parts.shape.Completable ∨ ∃ c n, c ≠ .year ∧ parts.get? c = some n ∧ ¬ c.InRange n)
    (reference : Date) :
    ∃ e, parts.complete reference = .error e ∧ e.kind = "NoValidDateError" := by
  cases parts.checked with
  | incompletable hs => exact ⟨_, complete_of_not_completable hs reference, rfl⟩
  | dayOutside hs hday => exact ⟨_, complete_of_day_outside hs hday reference, rfl⟩
  | monthOutside hday hmonth => exact ⟨_, complete_of_month_outside hday hmonth reference, rfl⟩
  | search hday hmonth =>
    obtain hs | ⟨_ | _ | _, n, hyear, hn, hout⟩ := h
    · exact absurd (completable_of_day _ _) hs
    · cases hn
      exact absurd hday hout
    · exact absurd (hmonth n hn) hout
    · exact absurd rfl hyear
  | full hday hmonth =>
    obtain hs | ⟨_ | _ | _, n, hyear, hn, hout⟩ := h
    · exact absurd (completable_of_all _ _ _) hs
    · cases hn
      exact absurd hday hout
    · cases hn
      exact absurd hmonth hout
    · exact absurd rfl hyear

end DateParts

/-- Whatever integers the parts hold, completion never fails for one of the calendar's errors.
Unless it would have to tell a number that is too long to be written, it ends with a date or with an
error of its own: one that speaks of a date that does not exist iff all parts are given and only the
year is out of range or the day is too late for its month, and one that speaks of no date if the
parts have no usable day and month. A full date that exists is found from every reference. -/
theorem completion_outcomes (parts : DateParts) (reference : Date) :
    (parts.Overlong ↔ ∃ e, parts.attempt reference = .error (.unwritable e)) ∧
    (¬ parts.Overlong →
      ((∃ d, parts.attempt reference = .ok d) ∨
        ∃ e, parts.attempt reference = .error (.date e) ∧
          (e.kind = "NoValidDateError" ∨
            e.kind = "InvalidCalendarDateError" ∧ ∃ year month day, e = .invalid year month day)) ∧
      (∀ year month day, parts.attempt reference = .error (.date (.invalid year month day)) ↔
        parts = ⟨some day, some month, some year⟩ ∧ Component.day.InRange day ∧
          Component.month.InRange month ∧
          (¬ Component.year.InRange year ∨ monthLength year month < day)) ∧
      ((¬ parts.shape.Completable ∨
          ∃ c n, c ≠ .year ∧ parts.get? c = some n ∧ ¬ c.InRange n) →
        ∃ e, parts.attempt reference = .error (.date e) ∧ e.kind = "NoValidDateError")) ∧
    ∀ d : Date, parts = ⟨some d.day, some d.month, some d.year⟩ →
      parts.attempt reference = .ok d := by
  refine ⟨DateParts.overlong_iff, fun hshort => ?_, ?_⟩
  · refine ⟨?_, fun year month day => ?_, fun h => ?_⟩
    · rw [DateParts.attempt_of_not_overlong hshort]
      cases parts.complete reference with
      | ok d => exact .inl ⟨d, rfl⟩
      | error e => exact .inr ⟨e, rfl, e.kind_eq_or⟩
    · rw [DateParts.attempt_eq_date_iff_of_not_overlong hshort, DateParts.complete_eq_invalid_iff]
    · obtain ⟨e, he, hkind⟩ := DateParts.complete_of_unusable h reference
      exact ⟨e, (DateParts.attempt_eq_date_iff_of_not_overlong hshort).mpr he, hkind⟩
  · rintro d rfl
    exact DateParts.attempt_eq_ok_iff.mpr (DateParts.complete_partsIn_full d reference)

/-- A leap day is found from before it, one that does not exist and a year beyond the calendar are
told from a day that no month has. -/
theorem completion_outcomes_first_day :
    (DateParts.mk (some 29) (some 2) (some 2000)).attempt .first = .ok ⟨2000, 2, 29, by decide⟩ ∧
    (DateParts.mk (some 29) (some 2) (some 1900)).attempt .first =
      .error (.date (.invalid 1900 2 29)) ∧
    (DateParts.mk (some 31) (some 12) (some 100000000000000000000)).attempt .first =
      .error (.date (.invalid 100000000000000000000 12 31)) ∧
    ∃ e, (DateParts.mk (some (-100000000000000000000)) none none).attempt .first =
      .error (.date e) ∧ e.kind = "NoValidDateError" := by
  have hyear : ∀ day month year : Int, Writable day → Writable month → Writable year →
      ¬ (DateParts.mk (some day) (some month) (some year)).Overlong := by
    intro day month year hday hmonth hyear
    refine DateParts.not_overlong ?_
    rintro (_ | _ | _) n ⟨⟩
    · exact hday
    · exact hmonth
    · exact hyear
  have hday : ¬ (DateParts.mk (some (-100000000000000000000)) none none).Overlong := by
    refine DateParts.not_overlong ?_
    rintro (_ | _ | _) n ⟨⟩
    decide
  refine ⟨?_, ?_, ?_, ?_⟩
  · exact (completion_outcomes _ .first).2.2 ⟨2000, 2, 29, by decide⟩ rfl
  · have htold := (completion_outcomes _ .first).2.1
      (hyear 29 2 1900 (by decide) (by decide) (by decide))
    exact (htold.2.1 1900 2 29).mpr ⟨rfl, by decide, by decide, .inr (by decide)⟩
  · have htold := (completion_outcomes _ .first).2.1
      (hyear 31 12 100000000000000000000 (by decide) (by decide) (by decide))
    exact (htold.2.1 _ _ _).mpr ⟨rfl, by decide, by decide, .inl (by decide)⟩
  · obtain ⟨-, -, htold⟩ := (completion_outcomes _ .first).2.1 hday
    refine htold (.inr ⟨.day, -100000000000000000000, ?_, rfl, ?_⟩)
    · decide
    · decide

/-- A day of 4301 digits is out of range, but completion neither says so nor finds a date. -/
theorem day_too_long_untold :
    ¬ Component.day.InRange (Nat.pow 10 4300 : Nat) ∧
    ¬ ((∃ d, (DateParts.mk (some (Nat.pow 10 4300 : Nat)) none none).attempt
        ⟨2016, 6, 15, by decide⟩ = .ok d) ∨
      ∃ e, (DateParts.mk (some (Nat.pow 10 4300 : Nat)) none none).attempt
        ⟨2016, 6, 15, by decide⟩ = .error (.date e)) := by
  have hlong : ¬ Writable (Nat.pow 10 4300 : Nat) := by
    apply not_writable_pow
    exact Nat.le_refl maxDigits
  obtain ⟨e, he⟩ := DateParts.overlong_iff.mp
    (DateParts.Overlong.day (DateParts.completable_of_day _ none) hlong)
  refine ⟨mt Component.InRange.writable hlong, ?_⟩
  rintro (⟨d, hd⟩ | ⟨e', he'⟩)
  · cases he.symm.trans hd
  · cases he.symm.trans he'

end DatePrompt
