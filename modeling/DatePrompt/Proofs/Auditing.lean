import DatePrompt.Proofs.Steps

/-!
# What auditing changes

A step whose event can be recorded has the same answer with and without an audit. A step whose
event cannot be recorded fails, records nothing, and leaves the rest of the session as it is. The
clock is read as often either way. The event of an entry quotes it, so whether it can be recorded
depends on the length of the entry.
-/

namespace DatePrompt

/-- The outcomes of one step when nothing is recorded and when the events of a level and above
are. -/
inductive AuditedOutcome (least : LogLevel) : Option Event → Outcome → Outcome → Prop
  | no_event {answer : Except Failure Answer} {reads : Nat} :
      AuditedOutcome least none ⟨answer, [], reads⟩ ⟨answer, [], reads⟩
  | recordable {e : Event} {answer : Except Failure Answer} {reads : Nat}
      (short : e.description.length ≤ Event.maxDescription) :
      AuditedOutcome least (some e) ⟨answer, [], reads⟩
        ⟨answer, if least ≤ e.level then [e] else [], reads⟩
  | overlong {e : Event} {answer : Except Failure Answer} {reads : Nat}
      (long : Event.maxDescription < e.description.length) (other : answer ≠ .error .unrecordable) :
      AuditedOutcome least (some e) ⟨answer, [], reads⟩ ⟨.error .unrecordable, [], reads⟩

namespace AuditedOutcome

variable {least : LogLevel} {event? : Option Event}

theorem of_recorded {answer : Except Failure Answer} (reads : Nat)
    (h : answer ≠ .error .unrecordable) :
    AuditedOutcome least event? ⟨answer, [], reads⟩
      ⟨(recorded (some least) event? answer).1, (recorded (some least) event? answer).2,
        reads⟩ := by
  cases event? with
  | none => exact no_event
  | some e =>
    by_cases hrec : e.Recordable
    · rw [recorded_of_recordable hrec]
      exact recordable hrec
    · rw [recorded_of_not_recordable hrec]
      exact overlong (Nat.lt_of_not_le hrec) h

/-- The answers differ just when the description of the event is too long. -/
theorem answer_ne_iff {plain audited : Outcome}
    (h : AuditedOutcome least event? plain audited) :
    audited.answer ≠ plain.answer ↔
      ∃ e, event? = some e ∧ Event.maxDescription < e.description.length := by
  cases h with
  | no_event =>
    refine ⟨fun hne => absurd rfl hne, ?_⟩
    rintro ⟨e, he, -⟩
    cases he
  | recordable hshort =>
    refine ⟨fun hne => absurd rfl hne, ?_⟩
    rintro ⟨e, he, hlong⟩
    cases he
    exact absurd hlong (Nat.not_lt.mpr hshort)
  | overlong hlong hother => exact ⟨fun _ => ⟨_, rfl, hlong⟩, fun _ => hother.symm⟩

theorem of_overlong {e : Event} {plain audited : Outcome}
    (h : AuditedOutcome least (some e) plain audited)
    (hlong : Event.maxDescription < e.description.length) :
    audited.answer = .error .unrecordable ∧ audited.events = [] := by
  cases h with
  | recordable hshort => exact absurd hlong (Nat.not_lt.mpr hshort)
  | overlong => exact ⟨rfl, rfl⟩

end AuditedOutcome

namespace Prompt

variable (p : Prompt)

/-- The prompt with another audit. -/
def withAudit (audit : AuditLevel) : Prompt := { p with audit }

@[simp] theorem eventAt_withAudit (audit : AuditLevel) (n : Nat) (step : Step) :
    (p.withAudit audit).eventAt n step = p.eventAt n step := by
  cases step <;> rfl

@[simp] theorem answerAt_withAudit (audit : AuditLevel) (n : Nat) (step : Step) :
    (p.withAudit audit).answerAt n step = p.answerAt n step := by
  cases step <;> rfl

theorem outcomeAt_withAudit (audit : AuditLevel) (n : Nat) (step : Step) :
    (p.withAudit audit).outcomeAt n step =
      ⟨(recorded audit (p.eventAt n step) (p.answerAt n step)).1,
        (recorded audit (p.eventAt n step) (p.answerAt n step)).2, step.reads⟩ := by
  unfold outcomeAt
  rw [eventAt_withAudit, answerAt_withAudit]
  rfl

theorem auditedOutcome_outcomeAt (least : LogLevel) (n : Nat) (step : Step) :
    AuditedOutcome least (p.eventAt n step) ((p.withAudit none).outcomeAt n step)
      ((p.withAudit (some least)).outcomeAt n step) := by
  rw [outcomeAt_withAudit, outcomeAt_withAudit, recorded_none_audit]
  exact AuditedOutcome.of_recorded step.reads (p.answerAt_ne_unrecordable n step)

end Prompt

/-! ## The description of an entry -/

theorem Date.length_iso (d : Date) : d.iso.length = 10 := by
  simp only [iso, String.length_ofList, List.length_append, List.length_cons, length_fixedWidth]

namespace Prompt

/-- How many characters the description of the event of an entry has besides the entry itself. -/
def wordsAround : Except EntryError Resolution → Nat
  | .ok ⟨_, true⟩ => 38
  | .ok ⟨_, false⟩ => 29
  | .error _ => 15

theorem length_description_entryEvent (text : String) (reference : Date)
    (correlation : Option String) (resolved : Except EntryError Resolution) :
    (entryEvent text reference correlation resolved).description.length =
      (quoted text.toList).length + wordsAround resolved := by
  have hentry : "Entry ".length = 6 := rfl
  have hrejected : " rejected".length = 9 := rfl
  have hresolved : " resolved to ".length = 13 := rfl
  have hjournal : " read as journal date ".length = 22 := rfl
  rcases resolved with e | ⟨d, _ | _⟩
  all_goals
    unfold entryEvent Event.description wordsAround
    simp only [String.length_append, Date.length_iso]
    omega

theorem wordsAround_bounds (resolved : Except EntryError Resolution) :
    15 ≤ wordsAround resolved ∧ wordsAround resolved ≤ 38 := by
  rcases resolved with e | ⟨d, _ | _⟩
  all_goals simp [wordsAround]

end Prompt

/-- A description is longer than the text it quotes. -/
theorem length_lt_description_entryEvent (text : String) (reference : Date)
    (correlation : Option String) (resolved : Except EntryError Resolution) :
    text.length < (Prompt.entryEvent text reference correlation resolved).description.length := by
  have h := length_add_two_le_length_quoted text.toList
  rw [String.length_toList] at h
  rw [Prompt.length_description_entryEvent]
  omega

/-! ## Two sessions -/

/-- Two sessions of one prompt, of which one is audited, agree step by step but for the steps
whose event has too long a description. Such a step fails and records nothing, and what comes
after any number of steps is a session of its own, with the clock where it then is. -/
theorem audit_changes_overlong_steps (p : Prompt) (least : LogLevel) (steps : List Step) :
    ((p.withAudit none).run steps).length = steps.length ∧
    ((p.withAudit (some least)).run steps).length = steps.length ∧
    (∀ (i : Nat) (step : Step), steps[i]? = some step → ∃ plain audited,
      ((p.withAudit none).run steps)[i]? = some plain ∧
      ((p.withAudit (some least)).run steps)[i]? = some audited ∧
      AuditedOutcome least (p.eventAt (Step.readsBefore steps i) step) plain audited ∧
      (audited.answer ≠ plain.answer ↔
        ∃ e, p.eventAt (Step.readsBefore steps i) step = some e ∧
          Event.maxDescription < e.description.length)) ∧
    ∀ k, ((p.withAudit (some least)).run steps).drop k =
      ((p.withAudit (some least)).later (Step.readsBefore steps k)).run (steps.drop k) := by
  refine ⟨Prompt.length_run _ _, Prompt.length_run _ _, ?_, Prompt.drop_run _ _⟩
  intro i step hstep
  have h := p.auditedOutcome_outcomeAt least (Step.readsBefore steps i) step
  refine ⟨_, _, ?_, ?_, h, h.answer_ne_iff⟩
  · rw [Prompt.getElem?_run, hstep, Option.map_some]
  · rw [Prompt.getElem?_run, hstep, Option.map_some]

/-- An entry of five hundred characters that means nothing is no failure without an audit. -/
theorem audit_changes_overlong_steps_long_entry :
    ∃ plain audited : Outcome,
      (Prompt.run ⟨Format.german, fun _ => .first, true, none⟩
        [.feedback (String.ofList (List.replicate 500 'x')) none, .today])[0]? = some plain ∧
      (Prompt.run ⟨Format.german, fun _ => .first, true, some .error⟩
        [.feedback (String.ofList (List.replicate 500 'x')) none, .today])[0]? = some audited ∧
      audited.answer ≠ plain.answer ∧ audited.answer = .error .unrecordable ∧
      audited.events = [] ∧
      (Prompt.run ⟨Format.german, fun _ => .first, true, some .error⟩
        [.feedback (String.ofList (List.replicate 500 'x')) none, .today]).drop 1 =
          [⟨.ok (.date .first), [], 1⟩] := by
  have hlength : (String.ofList (List.replicate 500 'x')).length = 500 := by
    rw [String.length_ofList, List.length_replicate]
  generalize String.ofList (List.replicate 500 'x') = text at hlength ⊢
  obtain ⟨-, -, hsteps, hdrop⟩ := audit_changes_overlong_steps
    ⟨Format.german, fun _ => .first, true, none⟩ .error [.feedback text none, .today]
  obtain ⟨plain, audited, hplain, haudited, h, hne⟩ := hsteps 0 _ rfl
  have hlong := length_lt_description_entryEvent text .first none
    (Prompt.resolve ⟨Format.german, fun _ => .first, true, none⟩ text .first)
  rw [hlength] at hlong
  obtain ⟨hanswer, hevents⟩ := h.of_overlong hlong
  exact ⟨plain, audited, hplain, haudited, hne.mpr ⟨_, rfl, hlong⟩, hanswer, hevents, hdrop 1⟩

end DatePrompt
