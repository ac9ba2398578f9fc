import DatePrompt.Entry.Journal
import DatePrompt.Proofs.Completion

/-!
# Journal dates

A text is in the journal's form if, blanks around it aside, it consists of three numerals with the
same separator between them (`InJournalForm`). The reader finds the numbers of just these texts
(`journalParts?_strip_eq_some_iff`). As it refuses a month or a day out of range itself, completion
is left with nothing to refuse but a date that does not exist (`journalDate_eq`).
-/

namespace DatePrompt

/-! ## The form -/

/-- A run of digits, its length between two bounds, and its value. -/
structure IsNumeral (low high : Nat) (ds : List Char) (n : Nat) : Prop where
  length : low ≤ ds.length ∧ ds.length ≤ high
  digits : ds.all Char.isDigit = true
  value : decimalValue ds = n

/-- A year of four digits, a month and a day of one or two, and one separator twice. -/
inductive JournalNumerals : List Char → Nat → Nat → Nat → Prop
  | intro {ys ms ds : List Char} {sep : Char} {year month day : Nat} (hyear : IsNumeral 4 4 ys year)
      (hsep : IsSeparator sep) (hmonth : IsNumeral 1 2 ms month) (hday : IsNumeral 1 2 ds day) :
      JournalNumerals (ys ++ sep :: (ms ++ sep :: ds)) year month day

/-- The journal's form of three numbers: their numerals, with blanks around. -/
def InJournalForm (text : List Char) (year month day : Nat) : Prop :=
  ∃ lead core trail, (∀ c ∈ lead, Blank c) ∧ (∀ c ∈ trail, Blank c) ∧
    text = lead ++ core ++ trail ∧ JournalNumerals core year month day

theorem not_blank_of_isDigit {c : Char} (h : c.isDigit = true) : ¬ Blank c := by
  have hbounds := isDigit_iff.mp h
  have hzero : '0'.toNat = 48 := rfl
  have hnine : '9'.toNat = 57 := rfl
  simp only [Blank]
  omega

theorem IsSeparator.isDigit_eq_false {c : Char} (h : IsSeparator c) : c.isDigit = false := by
  rcases h with rfl | rfl | rfl <;> rfl

theorem IsNumeral.ne_nil {low high : Nat} {ds : List Char} {n : Nat}
    (h : IsNumeral (low + 1) high ds n) : ds ≠ [] := by
  rintro rfl
  exact Nat.not_succ_le_zero _ h.length.1

theorem IsNumeral.eq_four {ys : List Char} {n : Nat} (h : IsNumeral 4 4 ys n) :
    ∃ y₁ y₂ y₃ y₄, ys = [y₁, y₂, y₃, y₄] := by
  have hlength : ys.length = 4 := Nat.le_antisymm h.length.2 h.length.1
  match ys, hlength with
  | [y₁, y₂, y₃, y₄], _ => exact ⟨y₁, y₂, y₃, y₄, rfl⟩

namespace JournalNumerals

variable {core : List Char} {year month day : Nat}

theorem ne_nil (h : JournalNumerals core year month day) : core ≠ [] := by
  cases h with
  | intro hyear hsep hmonth hday => simp

theorem head_not_blank (h : JournalNumerals core year month day) :
    ∀ c ∈ core.head?, ¬ Blank c := by
  cases h with
  | intro hyear hsep hmonth hday =>
    obtain ⟨y, ys, rfl⟩ := List.exists_cons_of_ne_nil hyear.ne_nil
    rintro _ ⟨⟩
    exact not_blank_of_isDigit (List.all_eq_true.mp hyear.digits y List.mem_cons_self)

theorem getLast_not_blank (h : JournalNumerals core year month day) :
    ∀ c ∈ core.getLast?, ¬ Blank c := by
  cases h with
  | @intro ys ms ds sep _ _ _ hyear hsep hmonth hday =>
    rw [show ys ++ sep :: (ms ++ sep :: ds) = (ys ++ sep :: (ms ++ [sep])) ++ ds by simp,
      List.getLast?_append, List.getLast?_eq_some_getLast hday.ne_nil]
    rintro _ ⟨⟩
    exact not_blank_of_isDigit (List.all_eq_true.mp hday.digits _ (List.getLast_mem hday.ne_nil))

end JournalNumerals

theorem inJournalForm_iff {text : List Char} {year month day : Nat} :
    InJournalForm text year month day ↔ JournalNumerals (strip text) year month day := by
  constructor
  · rintro ⟨lead, core, trail, hlead, htrail, rfl, h⟩
    rwa [strip_append_append hlead htrail h.ne_nil h.head_not_blank h.getLast_not_blank]
  · intro h
    obtain ⟨lead, trail, hlead, htrail, hsplit⟩ := exists_eq_append_strip_append text
    exact ⟨lead, strip text, trail, hlead, htrail, hsplit, h⟩

/-! ## Reading it -/

theorem shortNumber?_eq_some_iff {ds : List Char} {n : Nat} :
    shortNumber? ds = some n ↔ IsNumeral 1 2 ds n := by
  unfold shortNumber?
  split
  · rename_i h
    rw [Option.some.injEq]
    exact ⟨fun hn => ⟨h.1, h.2, hn⟩, IsNumeral.value⟩
  · rename_i h
    exact iff_of_false (fun h => by cases h) fun hn => h ⟨hn.length, hn.digits⟩

theorem journalParts?_eq_some_iff {core : List Char} {year month day : Nat} :
    journalParts? core = some (year, month, day) ↔ JournalNumerals core year month day := by
  constructor
  · intro h
    unfold journalParts? at h
    split at h
    · rename_i y₁ y₂ y₃ y₄ sep rest
      split at h
      · rename_i hguard
        split at h
        · rename_i sep' ds hdrop
          split at h
          · rename_i hsame
            subst hsame
            simp only [Option.bind_eq_bind, Option.bind_eq_some_iff, Option.pure_def,
              Option.some.injEq, Prod.mk.injEq, shortNumber?_eq_some_iff] at h
            obtain ⟨_, hmonth, _, hday, hyear, rfl, rfl⟩ := h
            have hsplit : rest = rest.takeWhile Char.isDigit ++ sep' :: ds := by
              rw [← hdrop, List.takeWhile_append_dropWhile]
            have hnumeral : IsNumeral 4 4 [y₁, y₂, y₃, y₄] year :=
              ⟨⟨Nat.le_refl 4, Nat.le_refl 4⟩, hguard.1, hyear⟩
            rw [hsplit]
            exact .intro hnumeral hguard.2 hmonth hday
          · cases h
        · cases h
      · cases h
    · cases h
  · intro h
    cases h with
    | @intro ys ms ds sep _ _ _ hyear hsep hmonth hday =>
      obtain ⟨y₁, y₂, y₃, y₄, rfl⟩ := hyear.eq_four
      have hrest : NoDigitFirst (sep :: ds) := noDigitFirst_cons hsep.isDigit_eq_false
      show journalParts? (y₁ :: y₂ :: y₃ :: y₄ :: sep :: (ms ++ sep :: ds)) = _
      simp only [journalParts?, hyear.digits, hsep, and_self, if_true,
        takeWhile_isDigit_append hmonth.digits hrest, dropWhile_isDigit_append hmonth.digits hrest,
        shortNumber?_eq_some_iff.mpr hmonth, shortNumber?_eq_some_iff.mpr hday, hyear.value]
      rfl

theorem journalParts?_strip_eq_some_iff {text : List Char} {year month day : Nat} :
    journalParts? (strip text) = some (year, month, day) ↔ InJournalForm text year month day := by
  rw [journalParts?_eq_some_iff, inJournalForm_iff]

/-- In the end a date is refused only if it does not exist. -/
theorem journalDate_eq (text : String) :
    journalDate text = match journalParts? (strip text.toList) with
      | none => .error (.malformed text)
      | some (y, m, d) => match Date.ofParts? y m d with
        | some date => .ok date
        | none => .error (.date (.invalid y m d)) := by
  unfold journalDate
  cases journalParts? (strip text.toList) with
  | none => rfl
  | some numbers =>
    obtain ⟨y, m, d⟩ := numbers
    by_cases hrange : Component.month.InRange m ∧ Component.day.InRange d
    · simp only [if_pos hrange, DateParts.complete_full hrange.2 hrange.1]
      cases Date.ofParts? y m d <;> rfl
    · have hnone : Date.ofParts? y m d = none := by
        refine Date.ofParts?_eq_none.mpr fun hvalid => hrange ⟨hvalid.2.1, hvalid.2.2.1, ?_⟩
        exact Int.le_trans hvalid.2.2.2 (monthLength_bounds _ _).2
      simp only [if_neg hrange, hnone]

/-- The numbers of a text in the journal's form miss the calendar in one of these ways, as a year of
four digits cannot be too late. -/
theorem not_validDate_natCast_iff {year month day : Nat} (hyear : year ≤ 9999) :
    ¬ ValidDate year month day ↔
      year = 0 ∨ month = 0 ∨ day = 0 ∨ 12 < month ∨ monthLength year month < day := by
  simp only [ValidDate, minYear, maxYear]
  omega

theorem IsNumeral.lt {low high : Nat} {ds : List Char} {n : Nat} (h : IsNumeral low high ds n) :
    n < Nat.pow 10 high := by
  rw [← h.value]
  exact decimalValue_lt h.digits h.length.2

theorem InJournalForm.bounds {text : List Char} {year month day : Nat}
    (h : InJournalForm text year month day) : year ≤ 9999 ∧ month ≤ 99 ∧ day ≤ 99 := by
  obtain ⟨_, _, _, _, _, _, hcore⟩ := h
  cases hcore with
  | intro hyear hsep hmonth hday =>
    exact ⟨Nat.le_of_lt_succ hyear.lt, Nat.le_of_lt_succ hmonth.lt, Nat.le_of_lt_succ hday.lt⟩

/-- What the reader may say of a text. -/
inductive JournalOutcome (text : String) : Except JournalError Date → Prop
  | date (date : Date)
      (h : InJournalForm text.toList date.year.toNat date.month.toNat date.day.toNat) :
      JournalOutcome text (.ok date)
  | invalid {year month day : Nat} (h : InJournalForm text.toList year month day)
      (hnone : year = 0 ∨ month = 0 ∨ day = 0 ∨ 12 < month ∨ monthLength year month < day) :
      JournalOutcome text (.error (.date (.invalid year month day)))
  | malformed (h : ∀ year month day, ¬ InJournalForm text.toList year month day) :
      JournalOutcome text (.error (.malformed text))

theorem journalOutcome_journalDate (text : String) : JournalOutcome text (journalDate text) := by
  rw [journalDate_eq]
  cases hparts : journalParts? (strip text.toList) with
  | none =>
    refine .malformed fun year month day h => ?_
    rw [journalParts?_strip_eq_some_iff.mpr h] at hparts
    cases hparts
  | some numbers =>
    obtain ⟨year, month, day⟩ := numbers
    have hform := journalParts?_strip_eq_some_iff.mp hparts
    dsimp only
    cases hdate : Date.ofParts? year month day with
    | none =>
      exact .invalid hform
        ((not_validDate_natCast_iff hform.bounds.1).mp (Date.ofParts?_eq_none.mp hdate))
    | some date =>
      obtain ⟨hy, hm, hd⟩ := Date.ofParts?_eq_some.mp hdate
      refine .date date ?_
      rwa [hy, hm, hd, Int.toNat_natCast, Int.toNat_natCast, Int.toNat_natCast]

theorem JournalOutcome.eq_journalDate {text : String} {outcome : Except JournalError Date}
    (h : JournalOutcome text outcome) : journalDate text = outcome := by
  rw [journalDate_eq]
  cases h with
  | date date h =>
    have hyear := date.year_bounds
    have hmonth := date.month_bounds
    have hday := date.day_bounds
    rw [journalParts?_strip_eq_some_iff.mpr h]
    simp only [Int.toNat_of_nonneg (show 0 ≤ date.year by omega),
      Int.toNat_of_nonneg (show 0 ≤ date.month by omega),
      Int.toNat_of_nonneg (show 0 ≤ date.day by omega), Date.ofParts?_self]
  | @invalid year month day h hnone =>
    have hinvalid := Date.ofParts?_eq_none.mpr ((not_validDate_natCast_iff h.bounds.1).mpr hnone)
    rw [journalParts?_strip_eq_some_iff.mpr h]
    simp only [hinvalid]
  | malformed h =>
    have hnone : journalParts? (strip text.toList) = none := by
      refine Option.eq_none_iff_forall_ne_some.mpr ?_
      rintro ⟨year, month, day⟩ hsome
      exact h year month day (journalParts?_strip_eq_some_iff.mp hsome)
    rw [hnone]

/-! ## Writing it -/

/-- The numeral of a month or a day, in two digits if that is asked for or needed. -/
def shortNumeral (padded : Bool) (n : Nat) : List Char :=
  fixedWidth (if padded ∨ 10 ≤ n then 2 else 1) n

/-- A date in the journal's form, with a separator and with or without zeros before a month and a
day of one digit. -/
def Date.inJournal (date : Date) (sep : Char) (padMonth padDay : Bool) : List Char :=
  fixedWidth 4 date.year.toNat ++
    sep :: (shortNumeral padMonth date.month.toNat ++ sep :: shortNumeral padDay date.day.toNat)

theorem isNumeral_fixedWidth {low high w n : Nat} (hlow : low ≤ w) (hhigh : w ≤ high)
    (hn : n < Nat.pow 10 w) : IsNumeral low high (fixedWidth w n) n := by
  refine ⟨?_, all_isDigit_fixedWidth w n, value_fixedWidth_of_lt hn⟩
  rw [length_fixedWidth]
  exact ⟨hlow, hhigh⟩

theorem isNumeral_shortNumeral (padded : Bool) {n : Nat} (hn : n < 100) :
    IsNumeral 1 2 (shortNumeral padded n) n := by
  unfold shortNumeral
  split
  · exact isNumeral_fixedWidth (by decide) (by decide) hn
  · rename_i h
    exact isNumeral_fixedWidth (by decide) (by decide) (Nat.not_le.mp fun hle => h (.inr hle))

theorem Date.journalNumerals_inJournal (date : Date) {sep : Char} (hsep : IsSeparator sep)
    (padMonth padDay : Bool) :
    JournalNumerals (date.inJournal sep padMonth padDay)
      date.year.toNat date.month.toNat date.day.toNat := by
  have hyear := date.year_bounds
  have hmonth := date.month_bounds
  have hday := date.day_bounds
  refine .intro (isNumeral_fixedWidth (Nat.le_refl 4) (Nat.le_refl 4) ?_) hsep
    (isNumeral_shortNumeral padMonth ?_) (isNumeral_shortNumeral padDay ?_)
  · show date.year.toNat < 10000
    omega
  · omega
  · omega

/-- A text is read as a date iff it is the journal's form of that date, is said not to be in the
calendar iff it is the form of three numbers that are not, and is no journal date otherwise. So a
date in the journal's form is read as itself, whatever its separator, zeros and blanks. -/
theorem journal_dates_exact (text : String) :
    (∀ outcome, journalDate text = outcome ↔ JournalOutcome text outcome) ∧
    (∀ e, journalDate text = .error (.date e) → e.kind = "InvalidCalendarDateError") ∧
    ∀ (date : Date) (sep : Char) (padMonth padDay : Bool) (lead trail : List Char),
      IsSeparator sep → (∀ c ∈ lead, Blank c) → (∀ c ∈ trail, Blank c) →
      text.toList = lead ++ date.inJournal sep padMonth padDay ++ trail →
      journalDate text = .ok date := by
  refine ⟨?_, ?_, ?_⟩
  · intro outcome
    constructor
    · rintro rfl
      exact journalOutcome_journalDate text
    · exact JournalOutcome.eq_journalDate
  · intro e he
    have houtcome := journalOutcome_journalDate text
    rw [he] at houtcome
    cases houtcome with
    | invalid => rfl
  · intro date sep padMonth padDay lead trail hsep hlead htrail htext
    refine JournalOutcome.eq_journalDate (.date date ?_)
    exact ⟨lead, _, trail, hlead, htrail, htext,
      date.journalNumerals_inJournal hsep padMonth padDay⟩

/-- Blanks and missing zeros do no harm, and 2015 had no leap day. -/
theorem journal_dates_exact_leap_day :
    journalDate "\t2016/2/29\n" = .ok ⟨2016, 2, 29, by decide⟩ ∧
    journalDate "2015-02-29" = .error (.date (.invalid 2015 2 29)) ∧
    (DateError.invalid 2015 2 29).kind = "InvalidCalendarDateError" := by
  have hform : InJournalForm "2015-02-29".toList 2015 2 29 := by
    refine ⟨[], "2015".toList ++ '-' :: ("02".toList ++ '-' :: "29".toList), [], by simp, by simp,
      by decide, ?_⟩
    exact .intro ⟨by decide, by decide, by decide⟩ (.inl rfl) ⟨by decide, by decide, by decide⟩
      ⟨by decide, by decide, by decide⟩
  have hinvalid : journalDate "2015-02-29" = .error (.date (.invalid 2015 2 29)) :=
    ((journal_dates_exact "2015-02-29").1 _).mpr (.invalid hform (by decide))
  have htab : ∀ c ∈ ['\t'], Blank c := List.forall_mem_singleton.mpr (by decide)
  have hnewline : ∀ c ∈ ['\n'], Blank c := List.forall_mem_singleton.mpr (by decide)
  refine ⟨?_, hinvalid, (journal_dates_exact "2015-02-29").2.1 _ hinvalid⟩
  exact (journal_dates_exact "\t2016/2/29\n").2.2 ⟨2016, 2, 29, by decide⟩ '/' false false
    ['\t'] ['\n'] (by decide) htab hnewline (by decide)

end DatePrompt
