import DatePrompt.Proofs.Report
import DatePrompt.Proofs.Steps

/-!
# Entries that may be journal dates

A prompt asks the journal only for entries that mean nothing in its format. So of two prompts that
differ in whether they ask it, the one that does answers every entry that has a date in the format
as the other does, finds the date of the journal where there is one, and otherwise fails as the
other does (`ExtendedBy`).
-/

namespace DatePrompt

namespace Prompt

variable {p : Prompt} {text : String} {reference : Date}

theorem resolve_of_ok {d : Date} (hformat : p.format.resolve text reference = .ok d) :
    p.resolve text reference = .ok ⟨d, false⟩ := by
  unfold resolve Format.resolveOrJournal
  rw [hformat]
  split <;> rfl

theorem resolve_of_unasked {e : EntryError} (hasked : p.journal = false)
    (hformat : p.format.resolve text reference = .error e) :
    p.resolve text reference = .error e := by
  unfold resolve
  rw [hasked, hformat]
  rfl

theorem resolve_of_journal {e : EntryError} {d : Date} (hasked : p.journal = true)
    (hformat : p.format.resolve text reference = .error e) (hjournal : journalDate text = .ok d) :
    p.resolve text reference = .ok ⟨d, true⟩ := by
  unfold resolve Format.resolveOrJournal
  rw [hasked, hformat, hjournal]
  rfl

/-- The error is that of the format, whether the journal was asked or not. -/
theorem resolve_of_neither {e : EntryError} {e' : JournalError}
    (hformat : p.format.resolve text reference = .error e)
    (hjournal : journalDate text = .error e') : p.resolve text reference = .error e := by
  unfold resolve Format.resolveOrJournal
  rw [hformat, hjournal]
  split <;> rfl

theorem outcomeAt_of_unaudited (h : p.audit = none) (n : Nat) (step : Step) :
    p.outcomeAt n step = ⟨p.answerAt n step, [], step.reads⟩ := by
  unfold outcomeAt
  rw [h, recorded_none_audit]

end Prompt

/-- The text of a step that is about an entry, with the reference that was given. -/
def Step.entry? : Step → Option (String × Option Date)
  | .submit text reference _ | .feedback text reference => some (text, reference)
  | _ => none

/-- The date that a step about an entry found. Feedback without a date is none. -/
def Outcome.date? (o : Outcome) : Option Date :=
  match o.answer with
  | .ok (.date d) => some d
  | .ok (.feedback d?) => d?
  | _ => none

/-- The outcomes of a step about an entry when the journal is not asked and when it is, from what
the entry means in the format. -/
inductive ExtendedBy (text : String) (resolved : Except EntryError Date) :
    Outcome → Outcome → Prop
  | kept {o : Outcome} {d : Date} (hformat : resolved = .ok d) (hdate : o.date? = some d) :
      ExtendedBy text resolved o o
  | found {plain extended : Outcome} {e : EntryError} {d : Date} (hformat : resolved = .error e)
      (hjournal : journalDate text = .ok d) (hplain : plain.date? = none)
      (hextended : extended.date? = some d) (hreads : extended.reads = plain.reads) :
      ExtendedBy text resolved plain extended
  | failed {o : Outcome} {e : EntryError} {e' : JournalError} (hformat : resolved = .error e)
      (hjournal : journalDate text = .error e') (hdate : o.date? = none)
      (herror : ∀ failure, o.answer = .error failure → failure = .entry e) :
      ExtendedBy text resolved o o

namespace ExtendedBy

variable {text : String} {resolved : Except EntryError Date} {plain extended : Outcome}

/-- Where the step fails without the journal, it finds a date with it just when there is one in the
journal, and just that date. -/
theorem date?_eq_some_iff (h : ExtendedBy text resolved plain extended)
    (hplain : plain.date? = none) (d : Date) :
    extended.date? = some d ↔ journalDate text = .ok d := by
  cases h with
  | kept _ hdate =>
    rw [hdate] at hplain
    cases hplain
  | found _ hjournal _ hextended =>
    rw [hextended, hjournal, Option.some.injEq, Except.ok.injEq]
  | failed _ hjournal hdate => simp [hdate, hjournal]

end ExtendedBy

namespace Prompt

variable (p : Prompt)

/-- The prompt with entries that may or may not be journal dates. -/
def withJournal (journal : Bool) : Prompt := { p with journal }

/-- A step that answers from what its entry comes to, as the steps about entries do. -/
theorem extendedBy_of_answer (text : String) (reference : Date) (reads : Nat)
    (answer : Except EntryError Resolution → Except Failure Answer)
    (hok : ∀ r, (Outcome.mk (answer (.ok r)) [] reads).date? = some r.date)
    (herror : ∀ e, (Outcome.mk (answer (.error e)) [] reads).date? = none)
    (hfailure : ∀ e failure, answer (.error e) = .error failure → failure = .entry e) :
    ExtendedBy text (p.format.resolve text reference)
      ⟨answer ((p.withJournal false).resolve text reference), [], reads⟩
      ⟨answer ((p.withJournal true).resolve text reference), [], reads⟩ := by
  cases hformat : p.format.resolve text reference with
  | ok d =>
    have hplain : (p.withJournal false).resolve text reference = _ := resolve_of_ok hformat
    have hextended : (p.withJournal true).resolve text reference = _ := resolve_of_ok hformat
    rw [hplain, hextended]
    exact .kept rfl (hok _)
  | error e =>
    have hplain : (p.withJournal false).resolve text reference = _ := resolve_of_unasked rfl hformat
    rw [hplain]
    cases hjournal : journalDate text with
    | ok d =>
      have hextended : (p.withJournal true).resolve text reference = _ :=
        resolve_of_journal rfl hformat hjournal
      rw [hextended]
      exact .found rfl hjournal (herror e) (hok _) rfl
    | error e' =>
      have hextended : (p.withJournal true).resolve text reference = _ :=
        resolve_of_neither hformat hjournal
      rw [hextended]
      exact .failed rfl hjournal (herror e) (hfailure e)

theorem extendedBy_outcomeAt (h : p.audit = none) (n : Nat) {step : Step} {text : String}
    {reference : Option Date} (hentry : step.entry? = some (text, reference)) :
    ExtendedBy text (p.format.resolve text (p.referenceAt n reference))
      ((p.withJournal false).outcomeAt n step) ((p.withJournal true).outcomeAt n step) := by
  rw [outcomeAt_of_unaudited (p := p.withJournal false) h,
    outcomeAt_of_unaudited (p := p.withJournal true) h]
  cases step with
  | submit text' reference' correlation =>
    cases hentry
    refine p.extendedBy_of_answer text _ _ (fun r => (submitAnswer r).map .date)
      (fun _ => rfl) (fun _ => rfl) ?_
    intro e failure hfailure
    cases hfailure
    rfl
  | feedback text' reference' =>
    cases hentry
    refine p.extendedBy_of_answer text _ _ (fun r => (feedbackAnswer r).map .feedback)
      (fun _ => rfl) (fun _ => rfl) ?_
    intro e failure hfailure
    cases hfailure
  | display | propose | weekday | today | template => cases hentry

/-- Only entries are looked for in the journal. -/
theorem outcomeAt_withJournal_of_not_entry (h : p.audit = none) (n : Nat) {step : Step}
    (hentry : step.entry? = none) (journal journal' : Bool) :
    (p.withJournal journal).outcomeAt n step = (p.withJournal journal').outcomeAt n step := by
  rw [outcomeAt_of_unaudited (p := p.withJournal journal) h,
    outcomeAt_of_unaudited (p := p.withJournal journal') h]
  cases step with
  | submit | feedback => cases hentry
  | display | propose | weekday | today | template => rfl

end Prompt

/-- Asking the journal only adds dates. Of two sessions without an audit, of which only one asks it,
a step about an entry finds the date that the format has for it in both; where the other one fails,
the one that asks finds the date of the journal, if there is one, and fails with the same error,
that of the format, if not. All other steps are the same. A date printed with day, month and year is
never taken for a journal date. -/
theorem journal_only_adds_dates {template : String} {f : Format}
    (h : Format.ofTemplate template = .ok f) (clock : Clock) (steps : List Step) :
    (∀ (i : Nat) (step : Step), steps[i]? = some step → ∃ plain extended : Outcome,
      (Prompt.run ⟨f, clock, false, none⟩ steps)[i]? = some plain ∧
      (Prompt.run ⟨f, clock, true, none⟩ steps)[i]? = some extended ∧
      (∀ text reference, step.entry? = some (text, reference) →
        ExtendedBy text (f.resolve text (reference.getD (clock (Step.readsBefore steps i))))
          plain extended ∧
        (plain.date? = none → ∀ d, extended.date? = some d ↔ journalDate text = .ok d)) ∧
      (step.entry? = none → extended = plain)) ∧
    (f.shape = .full → ∀ d reference : Date,
      f.resolveOrJournal (f.print d) reference = .ok ⟨d, false⟩) := by
  let p : Prompt := ⟨f, clock, false, none⟩
  constructor
  · intro i step hstep
    refine ⟨(p.withJournal false).outcomeAt (Step.readsBefore steps i) step,
      (p.withJournal true).outcomeAt (Step.readsBefore steps i) step, ?_, ?_, ?_, ?_⟩
    · rw [Prompt.getElem?_run, hstep]
      rfl
    · rw [Prompt.getElem?_run, hstep]
      rfl
    · intro text reference hentry
      have hextended := p.extendedBy_outcomeAt rfl (Step.readsBefore steps i) hentry
      exact ⟨hextended, hextended.date?_eq_some_iff⟩
    · intro hentry
      exact p.outcomeAt_withJournal_of_not_entry rfl _ hentry true false
  · intro hfull d reference
    have hwf := (Format.ofTemplate_eq_ok_iff.mp h).1
    exact Prompt.resolve_of_ok (p := p.withJournal true)
      (Format.resolve_print_of_full hwf hfull d reference)

/-- With the day before the month the format takes 10 September for 9 October, asked or not, while
20 September is left to the journal. -/
theorem journal_only_adds_dates_day_first :
    ∃ f, Format.ofTemplate "%Y-%d-%m" = .ok f ∧
      f.resolveOrJournal "2016-09-10" .first = .ok ⟨⟨2016, 10, 9, by decide⟩, false⟩ ∧
      ∃ plain extended : Outcome,
        (Prompt.run ⟨f, fun _ => .first, false, none⟩ [.today, .feedback "2016-09-20" none])[1]? =
          some plain ∧
        (Prompt.run ⟨f, fun _ => .first, true, none⟩ [.today, .feedback "2016-09-20" none])[1]? =
          some extended ∧
        plain.date? = none ∧ extended.date? = some ⟨2016, 9, 20, by decide⟩ := by
  have hf : Format.ofTemplate "%Y-%d-%m" = .ok ⟨[.field .longYear, .literal ['-'], .field .day,
      .literal ['-'], .field .month], []⟩ := rfl
  obtain ⟨hsteps, hprint⟩ := journal_only_adds_dates hf (fun _ => .first)
    [.today, .feedback "2016-09-20" none]
  obtain ⟨plain, extended, hplain, hextended, hentry, -⟩ := hsteps 1 _ rfl
  obtain ⟨-, hfound⟩ := hentry _ _ rfl
  have hresolve := hprint rfl ⟨2016, 10, 9, by decide⟩ .first
  have hprinted : Format.print ⟨[.field .longYear, .literal ['-'], .field .day, .literal ['-'],
      .field .month], []⟩ ⟨2016, 10, 9, by decide⟩ = "2016-09-10" := rfl
  rw [hprinted] at hresolve
  have hnone : plain.date? = none := by
    cases hplain
    rfl
  exact ⟨_, hf, hresolve, plain, extended, hplain, hextended, hnone, (hfound hnone _).mpr rfl⟩

end DatePrompt
