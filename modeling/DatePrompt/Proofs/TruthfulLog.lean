import DatePrompt.Proofs.Auditing
import DatePrompt.Proofs.ErrorNotes
import DatePrompt.Proofs.JournalEntries
import DatePrompt.Proofs.ShortYear

/-!
# What the log tells

With every event recorded, each entry and each printed date leaves exactly one event, unless that
event cannot be recorded. The event tells what came of the step (`Accounts`), and as the dates in it
read back, whoever has the log can resolve the entries and print the dates again and will find the
same (`Event.Holds`).
-/

namespace DatePrompt

/-- The event of an entry, seen from the reference: the entry means a date in the format, or it
means none there and one in the journal, which is asked only if entries may be journal dates, or it
means none, and the error of the format is noted. -/
inductive TellsEntry (p : Prompt) (text : String) (reference : Date)
    (correlation : Option String) : Event → Prop
  | parsed {d : Date} (hformat : p.format.resolve text reference = .ok d) :
      TellsEntry p text reference correlation
        (.entryParsed text d.iso reference.iso correlation)
  | journal {e : EntryError} {d : Date} (hasked : p.journal = true)
      (hformat : p.format.resolve text reference = .error e) (hjournal : journalDate text = .ok d) :
      TellsEntry p text reference correlation (.journalDate text d.iso correlation)
  | rejected {e : EntryError} {note : ErrorNote}
      (hformat : p.format.resolve text reference = .error e) (hnote : e.Noted note)
      (hjournal : p.journal = false ∨ ∃ e', journalDate text = .error e') :
      TellsEntry p text reference correlation
        (.entryRejected text reference.iso note correlation)

/-- The event of a date being printed: its text, and whether a short year had to be printed in
full. -/
inductive TellsPrint (f : Format) (d : Date) : Event → Prop
  | widened (h : f.WidensYear d) :
      TellsPrint f d (.shortYearWidened d.iso (f.print d) f.template)
  | printed (h : ¬ f.WidensYear d) : TellsPrint f d (.datePrinted d.iso (f.print d))

/-- The events of a step when the clock was read `n` times before: one for an entry or a printed
date, none for any other step. -/
inductive Accounts (p : Prompt) (n : Nat) : Step → List Event → Prop
  | submit {text : String} {reference : Option Date} {correlation : Option String} {e : Event}
      (h : TellsEntry p text (p.referenceAt n reference) correlation e) :
      Accounts p n (.submit text reference correlation) [e]
  | feedback {text : String} {reference : Option Date} {e : Event}
      (h : TellsEntry p text (p.referenceAt n reference) none e) :
      Accounts p n (.feedback text reference) [e]
  | display {d : Date} {e : Event} (h : TellsPrint p.format d e) : Accounts p n (.display d) [e]
  | propose {e : Event} (h : TellsPrint p.format (p.clock n) e) : Accounts p n .propose [e]
  | weekday {w : Int} {reference : Option Date} : Accounts p n (.weekday w reference) []
  | today : Accounts p n .today []
  | template : Accounts p n .template []

/-- What the log shows of an event is about an entry or a printed date, and it is so. The dates are
read off its details. -/
inductive Event.Holds (f : Format) (journal : Bool) (e : Event) : Prop
  | parsed {text resolved reference : String} {d r : Date}
      (hshows : e.Shows "entry_parsed"
        [("text", .text text), ("resolved", .text resolved), ("reference", .text reference)] none)
      (hresolved : Date.ofIso? resolved = some d) (hreference : Date.ofIso? reference = some r)
      (hformat : f.resolve text r = .ok d)
  | journal {text resolved : String} {d : Date}
      (hshows : e.Shows "journal_date_fallback"
        [("text", .text text), ("resolved", .text resolved)] none)
      (hresolved : Date.ofIso? resolved = some d) (hasked : journal = true)
      (hjournal : DatePrompt.journalDate text = .ok d)
  | rejected {text reference : String} {note : ErrorNote} {r : Date} {error : EntryError}
      (hshows : e.Shows "entry_rejected"
        [("text", .text text), ("reference", .text reference)] (some note))
      (hreference : Date.ofIso? reference = some r) (hformat : f.resolve text r = .error error)
      (hnote : error.Noted note)
      (hjournal : journal = false ∨ ∃ e', DatePrompt.journalDate text = .error e')
  | printed {date : String} {d : Date}
      (hshows : e.Shows "date_printed" [("date", .text date), ("text", .text (f.print d))] none)
      (hdate : Date.ofIso? date = some d) (hyear : ¬ f.WidensYear d)
  | widened {date : String} {d : Date}
      (hshows : e.Shows "short_year_widened" [("date", .text date), ("text", .text (f.print d)),
        ("template", .text f.template)] none)
      (hdate : Date.ofIso? date = some d) (hyear : f.WidensYear d)

/-! ## Reading the log again -/

theorem TellsEntry.holds {p : Prompt} {text : String} {reference : Date}
    {correlation : Option String} {e : Event} (h : TellsEntry p text reference correlation e) :
    e.Holds p.format p.journal := by
  cases h with
  | parsed hformat =>
    exact .parsed ⟨rfl, rfl, rfl⟩ (Date.ofIso?_iso _) (Date.ofIso?_iso _) hformat
  | journal hasked hformat hjournal =>
    exact .journal ⟨rfl, rfl, rfl⟩ (Date.ofIso?_iso _) hasked hjournal
  | rejected hformat hnote hjournal =>
    exact .rejected ⟨rfl, rfl, rfl⟩ (Date.ofIso?_iso _) hformat hnote hjournal

theorem TellsPrint.holds {f : Format} {d : Date} {e : Event} (h : TellsPrint f d e)
    (journal : Bool) : e.Holds f journal := by
  cases h with
  | widened h => exact .widened ⟨rfl, rfl, rfl⟩ (Date.ofIso?_iso d) h
  | printed h => exact .printed ⟨rfl, rfl, rfl⟩ (Date.ofIso?_iso d) h

theorem Accounts.holds {p : Prompt} {n : Nat} {step : Step} {events : List Event}
    (h : Accounts p n step events) : ∀ e ∈ events, e.Holds p.format p.journal := by
  cases h with
  | submit h | feedback h => exact List.forall_mem_singleton.mpr h.holds
  | display h | propose h => exact List.forall_mem_singleton.mpr (h.holds _)
  | weekday | today | template => exact List.forall_mem_nil _

/-! ## The event of a step -/

namespace Prompt

variable (p : Prompt)

/-- The prompt finds a date for an entry just when the format or, if it is asked, the journal
does. -/
theorem tellsEntry_entryEvent (text : String) (reference : Date) (correlation : Option String) :
    TellsEntry p text reference correlation
      (entryEvent text reference correlation (p.resolve text reference)) := by
  cases hformat : p.format.resolve text reference with
  | ok d =>
    rw [resolve_of_ok hformat]
    exact .parsed hformat
  | error e =>
    cases hasked : p.journal with
    | false =>
      rw [resolve_of_unasked hasked hformat]
      exact .rejected hformat (Format.noted_of_resolve_error hformat) (.inl hasked)
    | true =>
      cases hjournal : journalDate text with
      | ok d =>
        rw [resolve_of_journal hasked hformat hjournal]
        exact .journal hasked hformat hjournal
      | error e' =>
        rw [resolve_of_neither hformat hjournal]
        exact .rejected hformat (Format.noted_of_resolve_error hformat) (.inr ⟨e', hjournal⟩)

theorem widens_iff (d : Date) : p.widens d = true ↔ p.format.WidensYear d := by
  rw [widens, Format.widensYear_iff, Bool.and_eq_true, decide_eq_true_eq, Bool.not_eq_true']

theorem tellsPrint_printEvent (d : Date) : TellsPrint p.format d (p.printEvent d) := by
  unfold printEvent
  split
  · rename_i h
    exact .widened ((p.widens_iff d).mp h)
  · rename_i h
    exact .printed (mt (p.widens_iff d).mpr h)

theorem accounts_eventAt (n : Nat) (step : Step) :
    Accounts p n step (p.eventAt n step).toList := by
  cases step with
  | submit text reference correlation => exact .submit (p.tellsEntry_entryEvent _ _ _)
  | feedback text reference => exact .feedback (p.tellsEntry_entryEvent _ _ _)
  | display d => exact .display (p.tellsPrint_printEvent d)
  | propose => exact .propose (p.tellsPrint_printEvent _)
  | weekday w reference => exact .weekday
  | today => exact .today
  | template => exact .template

/-- With every event recorded, a step fails for its event alone, or the log accounts for it. -/
theorem accounts_outcomeAt (n : Nat) (step : Step) :
    let o := (p.withAudit (some .debug)).outcomeAt n step
    o.answer = .error .unrecordable ∧ o.events = [] ∨
      o.answer ≠ .error .unrecordable ∧ Accounts p n step o.events := by
  have haccounts := p.accounts_eventAt n step
  have hanswer := p.answerAt_ne_unrecordable n step
  rw [outcomeAt_withAudit]
  cases hevent : p.eventAt n step with
  | none =>
    rw [hevent] at haccounts
    rw [recorded_none_event]
    exact .inr ⟨hanswer, haccounts⟩
  | some e =>
    rw [hevent] at haccounts
    by_cases hrecordable : e.Recordable
    · rw [recorded_of_recordable hrecordable, if_pos (LogLevel.debug_le e.level)]
      exact .inr ⟨hanswer, haccounts⟩
    · rw [recorded_of_not_recordable hrecordable]
      exact .inl ⟨rfl, rfl⟩

end Prompt

/-- In a session with every event recorded, a step fails because its event cannot be recorded and
leaves no event, or its events account for it: one for an entry or a printed date, and none for any
other step. What the log says can be checked against the format and the journal from the log
alone. -/
theorem log_truthful_and_complete (p : Prompt) (steps : List Step) :
    (∀ (i : Nat) (step : Step), steps[i]? = some step → ∃ o : Outcome,
      ((p.withAudit (some .debug)).run steps)[i]? = some o ∧
      (o.answer = .error .unrecordable ∧ o.events = [] ∨
        o.answer ≠ .error .unrecordable ∧
          Accounts p (Step.readsBefore steps i) step o.events)) ∧
    ∀ o ∈ (p.withAudit (some .debug)).run steps, ∀ e ∈ o.events, e.Holds p.format p.journal := by
  constructor
  · intro i step hstep
    refine ⟨_, ?_, p.accounts_outcomeAt (Step.readsBefore steps i) step⟩
    rw [Prompt.getElem?_run, hstep, Option.map_some]
  · intro o ho e he
    obtain ⟨i, hi⟩ := List.getElem?_of_mem ho
    rw [Prompt.getElem?_run] at hi
    obtain ⟨step, _, rfl⟩ := Option.map_eq_some_iff.mp hi
    rcases p.accounts_outcomeAt (Step.readsBefore steps i) step with ⟨_, hnone⟩ | ⟨_, haccounts⟩
    · rw [hnone] at he
      cases he
    · exact haccounts.holds e he

/-- In German the first entry is a date of the journal only, February has no 31st in any year, and
1915 is no year of two digits. -/
theorem log_truthful_and_complete_german :
    let p : Prompt := ⟨Format.german, fun _ => .last, true, none⟩
    let steps : List Step := [.submit "2016-09-20" none none, .submit "31.2.2015" none none,
      .display ⟨1915, 2, 1, by decide⟩]
    ∃ found refused display : Outcome,
      ((p.withAudit (some .debug)).run steps)[0]? = some found ∧
      ((p.withAudit (some .debug)).run steps)[1]? = some refused ∧
      ((p.withAudit (some .debug)).run steps)[2]? = some display ∧
      found.events = [.journalDate "2016-09-20" "2016-09-20" none] ∧
      Accounts p 0 (.submit "2016-09-20" none none) found.events ∧
      refused.events = [.entryRejected "31.2.2015" "9999-12-31"
        ⟨"InvalidCalendarDateError", "31.02.2015 is not a valid date"⟩ none] ∧
      Accounts p 1 (.submit "31.2.2015" none none) refused.events ∧
      display.events = [.shortYearWidened "1915-02-01" "01.02.1915" "%d[.[%m[.[%y]]]]"] ∧
      Accounts p 2 (.display ⟨1915, 2, 1, by decide⟩) display.events := by
  intro p steps
  obtain ⟨hsteps, -⟩ := log_truthful_and_complete p steps
  have accounted : ∀ {n : Nat} {step : Step} {o : Outcome} {e : Event},
      (o.answer = .error .unrecordable ∧ o.events = [] ∨
        o.answer ≠ .error .unrecordable ∧ Accounts p n step o.events) →
      o.events = [e] → Accounts p n step o.events := by
    rintro n step o e (⟨-, hnone⟩ | ⟨-, haccounts⟩) hevents
    · cases hnone.symm.trans hevents
    · exact haccounts
  obtain ⟨found, hfound, hfoundAccounts⟩ := hsteps 0 _ rfl
  obtain ⟨refused, hrefused, hrefusedAccounts⟩ := hsteps 1 _ rfl
  obtain ⟨display, hdisplay, hdisplayAccounts⟩ := hsteps 2 _ rfl
  have hfoundEvents : found.events = [.journalDate "2016-09-20" "2016-09-20" none] := by
    rw [Prompt.getElem?_run] at hfound
    rw [← Option.some.inj hfound]
    decide +kernel
  have hrefusedEvents : refused.events = [.entryRejected "31.2.2015" "9999-12-31"
      ⟨"InvalidCalendarDateError", "31.02.2015 is not a valid date"⟩ none] := by
    rw [Prompt.getElem?_run] at hrefused
    rw [← Option.some.inj hrefused]
    decide +kernel
  have hdisplayEvents : display.events =
      [.shortYearWidened "1915-02-01" "01.02.1915" "%d[.[%m[.[%y]]]]"] := by
    rw [Prompt.getElem?_run] at hdisplay
    rw [← Option.some.inj hdisplay]
    decide +kernel
  exact ⟨found, refused, display, hfound, hrefused, hdisplay,
    hfoundEvents, accounted hfoundAccounts hfoundEvents,
    hrefusedEvents, accounted hrefusedAccounts hrefusedEvents,
    hdisplayEvents, accounted hdisplayAccounts hdisplayEvents⟩

end DatePrompt
