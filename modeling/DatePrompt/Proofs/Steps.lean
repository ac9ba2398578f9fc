import DatePrompt.Prompt.Run
import DatePrompt.Proofs.Outcome

/-!
# What a step does

A step of a prompt reads the clock at most once, records at most one event and gives an answer.
What these are depends on the session only through the number of readings before the step
(`Prompt.outcomeAt`). This is `Prompt.observe_act` for one step and `Prompt.getElem?_run` for a
session; no other fact about sessions opens an action.
-/

namespace DatePrompt

/-- How often a reference makes the clock be read: once if it is not given. -/
def clockReads : Option Date → Nat
  | some _ => 0
  | none => 1

namespace Step

/-- How often the step reads the clock. -/
def reads : Step → Nat
  | submit _ reference _ | feedback _ reference | weekday _ reference => clockReads reference
  | propose | today => 1
  | display _ | template => 0

/-- How often the first steps read the clock. -/
def readsBefore : List Step → Nat → Nat
  | step :: steps, i + 1 => step.reads + readsBefore steps i
  | _, _ => 0

@[simp] theorem readsBefore_zero (steps : List Step) : readsBefore steps 0 = 0 := by
  cases steps <;> rfl

@[simp] theorem readsBefore_nil (i : Nat) : readsBefore [] i = 0 := by
  cases i <;> rfl

@[simp] theorem readsBefore_cons_succ (step : Step) (steps : List Step) (i : Nat) :
    readsBefore (step :: steps) (i + 1) = step.reads + readsBefore steps i := rfl

theorem readsBefore_add (steps : List Step) (k i : Nat) :
    readsBefore steps (k + i) = readsBefore steps k + readsBefore (steps.drop k) i := by
  induction steps generalizing k with
  | nil => simp
  | cons step steps ih =>
    cases k with
    | zero => simp
    | succ k =>
      rw [Nat.succ_add, readsBefore_cons_succ, readsBefore_cons_succ, List.drop_succ_cons, ih,
        Nat.add_assoc]

end Step

/-- An answer and what is recorded when an event goes with it. An event that cannot be recorded
takes the place of the answer. -/
def recorded {α : Type} (audit : AuditLevel) (event? : Option Event) (answer : Except Failure α) :
    Except Failure α × List Event :=
  match audit, event? with
  | some least, some e =>
    if e.Recordable then (answer, if least ≤ e.level then [e] else [])
    else (.error .unrecordable, [])
  | _, _ => (answer, [])

section Recorded

variable {α : Type} {audit : AuditLevel} {e : Event} {answer : Except Failure α}

@[simp] theorem recorded_none_audit (event? : Option Event) :
    recorded none event? answer = (answer, []) := by
  cases event? <;> rfl

@[simp] theorem recorded_none_event : recorded audit none answer = (answer, []) := by
  cases audit <;> rfl

theorem recorded_of_recordable {least : LogLevel} (h : e.Recordable) :
    recorded (some least) (some e) answer = (answer, if least ≤ e.level then [e] else []) :=
  if_pos h

theorem recorded_of_not_recordable {least : LogLevel} (h : ¬ e.Recordable) :
    recorded (some least) (some e) answer = (.error .unrecordable, []) :=
  if_neg h

/-- What is recorded keeps every answer or refuses every answer. -/
theorem recorded_keeps_or_refuses (audit : AuditLevel) (event? : Option Event) :
    (∃ log, ∀ (β : Type) (a : Except Failure β), recorded audit event? a = (a, log)) ∨
    ∀ (β : Type) (a : Except Failure β), recorded audit event? a = (.error .unrecordable, []) := by
  cases audit with
  | none => exact .inl ⟨[], fun _ _ => recorded_none_audit event?⟩
  | some least =>
    cases event? with
    | none => exact .inl ⟨[], fun _ _ => recorded_none_event⟩
    | some e =>
      by_cases h : e.Recordable
      · exact .inl ⟨_, fun _ _ => recorded_of_recordable h⟩
      · exact .inr fun _ _ => recorded_of_not_recordable h

theorem recorded_map {β : Type} (g : α → β) (event? : Option Event) :
    recorded audit event? (answer.map g) =
      ((recorded audit event? answer).1.map g, (recorded audit event? answer).2) := by
  rcases recorded_keeps_or_refuses audit event? with ⟨log, h⟩ | h
  · rw [h, h]
  · rw [h, h]
    rfl

end Recorded

namespace PromptM

variable {α β : Type}

theorem apply_map (g : α → β) (act : PromptM α) (s : Session) :
    apply (g <$> act) s = ((apply act s).1.map g, (apply act s).2) := by
  rw [map_eq_pure_bind, apply_bind]
  rcases apply act s with ⟨_ | _, s'⟩ <;> rfl

theorem apply_tryCatch (act : PromptM α) (handler : Failure → PromptM α) (s : Session) :
    apply (tryCatch act handler) s = match apply act s with
      | (.ok a, s') => (.ok a, s')
      | (.error e, s') => apply (handler e) s' := by
  simp only [apply, tryCatch, tryCatchThe, MonadExceptOf.tryCatch, ExceptT.tryCatch, ExceptT.mk,
    bind, StateT.bind]
  rcases act s with ⟨_ | _, _⟩ <;> rfl

/-- In the session the action reads the clock a number of times and gives the answer, and an event
goes with it. -/
def Does (act : PromptM α) (audit : AuditLevel) (s : Session) (reads : Nat)
    (event? : Option Event) (answer : Except Failure α) : Prop :=
  act.apply s = ((recorded audit event? answer).1,
    ⟨s.reads + reads, s.log ++ (recorded audit event? answer).2⟩)

namespace Does

variable {act : PromptM α} {audit : AuditLevel} {s : Session} {reads : Nat}
  {event? : Option Event} {answer : Except Failure α}

/-- What is read before an action, the action having the rest of the session. -/
theorem bind_of_read {first : PromptM β} {b : β} {k : β → PromptM α}
    (hfirst : first.apply s = (.ok b, ⟨s.reads + reads, s.log⟩))
    (hk : (k b).Does audit ⟨s.reads + reads, s.log⟩ 0 event? answer) :
    (first >>= k).Does audit s reads event? answer := by
  unfold Does at hk ⊢
  rw [apply_bind, hfirst]
  exact hk

theorem map (h : act.Does audit s reads event? answer) (g : α → β) :
    (g <$> act).Does audit s reads event? (answer.map g) := by
  unfold Does at h ⊢
  rw [apply_map, h, recorded_map]

/-- An action without an event leaves the session alone. -/
theorem of_apply (h : act.apply s = (answer, s)) : act.Does audit s 0 none answer := by
  unfold Does
  rw [h, recorded_none_event, List.append_nil]
  rfl

/-- An event is recorded before an action that leaves the session alone. -/
theorem record_bind {k : Unit → PromptM α} (hk : ∀ s, (k ()).apply s = (answer, s)) (e : Event) :
    (record audit e >>= k).Does audit s 0 (some e) answer := by
  unfold Does
  rw [apply_bind]
  cases audit with
  | none =>
    rw [apply_record_none, recorded_none_audit]
    dsimp only
    rw [hk, List.append_nil]
    rfl
  | some least =>
    rw [apply_record_some]
    by_cases h : e.Recordable
    · rw [if_pos h, recorded_of_recordable h]
      dsimp only
      rw [hk]
      split
      · rfl
      · rw [List.append_nil]
        rfl
    · rw [if_neg h, recorded_of_not_recordable h, List.append_nil]
      rfl

end Does

end PromptM

namespace Prompt

variable (p : Prompt)

/-! ## What there is to say about a step -/

/-- The reference of a step when the clock was read `n` times before. -/
def referenceAt (n : Nat) (reference : Option Date) : Date := reference.getD (p.clock n)

/-- The event of a date being printed. -/
def printEvent (d : Date) : Event :=
  if p.widens d then .shortYearWidened d.iso (p.format.print d) p.format.template
  else .datePrinted d.iso (p.format.print d)

/-- The event of a step when the clock was read `n` times before. -/
def eventAt (n : Nat) : Step → Option Event
  | .submit text reference correlation =>
    let reference := p.referenceAt n reference
    some (entryEvent text reference correlation (p.resolve text reference))
  | .feedback text reference =>
    let reference := p.referenceAt n reference
    some (entryEvent text reference none (p.resolve text reference))
  | .display d => some (p.printEvent d)
  | .propose => some (p.printEvent (p.clock n))
  | .weekday .. | .today | .template => none

/-- The date that a complete entry is answered with. -/
def submitAnswer : Except EntryError Resolution → Except Failure Date
  | .ok r => .ok r.date
  | .error e => .error (.entry e)

/-- The date, if any, that an entry so far is answered with. -/
def feedbackAnswer : Except EntryError Resolution → Except Failure (Option Date)
  | .ok r => .ok (some r.date)
  | .error _ => .ok none

def weekdayAnswer : Except WeekdayError Date → Except Failure Date
  | .ok d => .ok d
  | .error e => .error (.weekday e)

/-- The answer to a step if its event, if any, can be recorded. -/
def answerAt (n : Nat) : Step → Except Failure Answer
  | .submit text reference _ =>
    (submitAnswer (p.resolve text (p.referenceAt n reference))).map .date
  | .feedback text reference =>
    (feedbackAnswer (p.resolve text (p.referenceAt n reference))).map .feedback
  | .display d => .ok (.text (p.format.print d))
  | .propose => .ok (.text (p.format.print (p.clock n)))
  | .weekday w reference => (weekdayAnswer (latestWeekday w (p.referenceAt n reference))).map .date
  | .today => .ok (.date (p.clock n))
  | .template => .ok (.text p.format.template)

/-- What comes of a step when the clock was read `n` times before. -/
def outcomeAt (n : Nat) (step : Step) : Outcome where
  answer := (recorded p.audit (p.eventAt n step) (p.answerAt n step)).1
  events := (recorded p.audit (p.eventAt n step) (p.answerAt n step)).2
  reads := step.reads

/-- An answer never says that an event could not be recorded. -/
theorem answerAt_ne_unrecordable (n : Nat) (step : Step) :
    p.answerAt n step ≠ .error .unrecordable := by
  intro h
  cases step with
  | submit text reference _ =>
    have h := map_eq_error_iff.mp h
    cases hr : p.resolve text (p.referenceAt n reference) <;> rw [hr] at h <;> cases h
  | feedback text reference =>
    have h := map_eq_error_iff.mp h
    cases hr : p.resolve text (p.referenceAt n reference) <;> rw [hr] at h <;> cases h
  | weekday w reference =>
    have h := map_eq_error_iff.mp h
    cases hw : latestWeekday w (p.referenceAt n reference) <;> rw [hw] at h <;> cases h
  | display | propose | today | template => cases h

/-! ## One step -/

theorem apply_today (s : Session) :
    p.today.apply s = (.ok (p.clock s.reads), ⟨s.reads + 1, s.log⟩) := rfl

theorem apply_referenceOr (reference : Option Date) (s : Session) :
    (p.referenceOr reference).apply s =
      (.ok (p.referenceAt s.reads reference), ⟨s.reads + clockReads reference, s.log⟩) := by
  cases reference <;> rfl

theorem today_does (s : Session) : p.today.Does p.audit s 1 none (.ok (p.clock s.reads)) := by
  unfold PromptM.Does
  rw [apply_today, recorded_none_event, List.append_nil]

theorem submit_does (text : String) (reference : Option Date) (correlation : Option String)
    (s : Session) :
    let reference' := p.referenceAt s.reads reference
    (p.submit text reference correlation).Does p.audit s (clockReads reference)
      (some (entryEvent text reference' correlation (p.resolve text reference')))
      (submitAnswer (p.resolve text reference')) := by
  refine PromptM.Does.bind_of_read (p.apply_referenceOr reference s) ?_
  refine PromptM.Does.record_bind (fun s' => ?_) _
  cases p.resolve text (p.referenceAt s.reads reference) <;> rfl

/-- Feedback is given in place of an entry that is refused, but not of an event that is. -/
theorem feedback_does (text : String) (reference : Option Date) (s : Session) :
    let reference' := p.referenceAt s.reads reference
    (p.feedback text reference).Does p.audit s (clockReads reference)
      (some (entryEvent text reference' none (p.resolve text reference')))
      (feedbackAnswer (p.resolve text reference')) := by
  intro reference'
  have hsubmit := (p.submit_does text reference none s).map some
  unfold PromptM.Does at hsubmit ⊢
  rw [feedback, PromptM.apply_tryCatch, hsubmit]
  rcases recorded_keeps_or_refuses p.audit
    (some (entryEvent text reference' none (p.resolve text reference'))) with ⟨log, h⟩ | h
  · rw [h, h]
    cases p.resolve text reference' <;> rfl
  · rw [h, h]
    rfl

theorem display_does (d : Date) (s : Session) :
    (p.display d).Does p.audit s 0 (some (p.printEvent d)) (.ok (p.format.print d)) :=
  PromptM.Does.record_bind (fun _ => rfl) (p.printEvent d)

theorem propose_does (s : Session) :
    p.propose.Does p.audit s 1 (some (p.printEvent (p.clock s.reads)))
      (.ok (p.format.print (p.clock s.reads))) :=
  PromptM.Does.bind_of_read (p.apply_today s) (p.display_does _ _)

theorem weekday_does (w : Int) (reference : Option Date) (s : Session) :
    (p.weekday w reference).Does p.audit s (clockReads reference) none
      (weekdayAnswer (latestWeekday w (p.referenceAt s.reads reference))) := by
  refine PromptM.Does.bind_of_read (p.apply_referenceOr reference s) ?_
  refine PromptM.Does.of_apply ?_
  cases latestWeekday w (p.referenceAt s.reads reference) <;> rfl

/-- The action of a step gives the answer to the step, and the event of the step goes with it. -/
theorem act_does (step : Step) (s : Session) :
    (p.act step).Does p.audit s step.reads (p.eventAt s.reads step) (p.answerAt s.reads step) := by
  cases step with
  | submit text reference correlation =>
    exact (p.submit_does text reference correlation s).map Answer.date
  | feedback text reference => exact (p.feedback_does text reference s).map Answer.feedback
  | display d => exact (p.display_does d s).map Answer.text
  | propose => exact (p.propose_does s).map Answer.text
  | weekday w reference => exact (p.weekday_does w reference s).map Answer.date
  | today => exact (p.today_does s).map Answer.date
  | template => exact PromptM.Does.of_apply rfl

theorem observe_act (step : Step) (s : Session) :
    observe (p.act step) s = (p.outcomeAt s.reads step,
      ⟨s.reads + step.reads, s.log ++ (p.outcomeAt s.reads step).events⟩) := by
  have h := p.act_does step s
  unfold PromptM.Does at h
  unfold observe
  rw [h]
  simp [outcomeAt]

/-! ## Sessions -/

theorem getElem?_runFrom (s : Session) (steps : List Step) (i : Nat) :
    (p.runFrom s steps)[i]? =
      steps[i]?.map (p.outcomeAt (s.reads + Step.readsBefore steps i)) := by
  induction steps generalizing s i with
  | nil => rfl
  | cons step steps ih =>
    rw [runFrom, observe_act]
    cases i with
    | zero => rfl
    | succ i =>
      rw [List.getElem?_cons_succ, List.getElem?_cons_succ, Step.readsBefore_cons_succ, ih,
        Nat.add_assoc]

/-- The outcome of each step of a session, from the readings of the steps before. -/
theorem getElem?_run (steps : List Step) (i : Nat) :
    (p.run steps)[i]? = steps[i]?.map (p.outcomeAt (Step.readsBefore steps i)) := by
  rw [run, getElem?_runFrom]
  simp [Session.empty]

theorem length_runFrom (s : Session) (steps : List Step) :
    (p.runFrom s steps).length = steps.length := by
  induction steps generalizing s with
  | nil => rfl
  | cons step steps ih => rw [runFrom, List.length_cons, List.length_cons, ih]

@[simp] theorem length_run (steps : List Step) : (p.run steps).length = steps.length :=
  p.length_runFrom Session.empty steps

/-- The prompt with its clock some readings further on. -/
def later (k : Nat) : Prompt := { p with clock := fun n => p.clock (k + n) }

theorem outcomeAt_later (k n : Nat) : (p.later k).outcomeAt n = p.outcomeAt (k + n) := by
  funext step
  cases step <;> rfl

@[simp] theorem later_zero : p.later 0 = p := by
  unfold later
  simp only [Nat.zero_add]

/-- What was before leaves nothing behind but the readings of the clock. -/
theorem runFrom_eq_run_later (s : Session) (steps : List Step) :
    p.runFrom s steps = (p.later s.reads).run steps := by
  refine List.ext_getElem? fun i => ?_
  rw [getElem?_runFrom, getElem?_run, outcomeAt_later]

/-- The rest of a session is a session of its own, with the clock where it then is. -/
theorem drop_run (steps : List Step) (k : Nat) :
    (p.run steps).drop k = (p.later (Step.readsBefore steps k)).run (steps.drop k) := by
  refine List.ext_getElem? fun i => ?_
  rw [List.getElem?_drop, getElem?_run, getElem?_run, List.getElem?_drop, Step.readsBefore_add,
    outcomeAt_later]

end Prompt

end DatePrompt
