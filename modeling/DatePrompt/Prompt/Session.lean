import DatePrompt.Audit.Event
import DatePrompt.Calendar.Weekday
import DatePrompt.Entry.Resolution
import DatePrompt.Template.Error

/-!
# Sessions

What goes on while a prompt is in use: its clock is read, events are recorded, and an action may
fail. A failure leaves the readings and the events as they are.
-/

namespace DatePrompt

/-- Why an action of the prompt fails. -/
inductive Failure
  | format (e : FormatError)
  | entry (e : EntryError)
  | weekday (e : WeekdayError)
  /-- An event could not be recorded. -/
  | unrecordable
  deriving DecidableEq

/-- The state of a session: how often the clock was read, and the events recorded, the earliest
first. -/
structure Session where
  reads : Nat
  log : List Event

/-- A session in which nothing has happened. -/
def Session.empty : Session := ⟨0, []⟩

/-- An action in a session. -/
abbrev PromptM := ExceptT Failure (StateM Session)

namespace PromptM

/-- The result of an action and the session after it. -/
def apply {α : Type} (act : PromptM α) (s : Session) : Except Failure α × Session := act s

variable {α β : Type}

@[simp] theorem apply_pure (a : α) (s : Session) : apply (pure a) s = (.ok a, s) := rfl

@[simp] theorem apply_throw (e : Failure) (s : Session) :
    apply (throw e : PromptM α) s = (.error e, s) := rfl

theorem apply_bind (act : PromptM α) (k : α → PromptM β) (s : Session) :
    apply (act >>= k) s = match apply act s with
      | (.ok a, s') => apply (k a) s'
      | (.error e, s') => (.error e, s') := by
  simp only [apply, bind, ExceptT.bind, ExceptT.mk, StateT.bind]
  rcases act s with ⟨_ | _, _⟩ <;> rfl

end PromptM

/-- The lowest level that is recorded, or nothing if no event is. -/
abbrev AuditLevel := Option LogLevel

/-- The event, if it can be recorded. -/
def Event.checked (e : Event) : Except Failure Event :=
  if e.Recordable then .ok e else .error .unrecordable

/-- Records an event. One that cannot be recorded is an error even if its level is too low. -/
def record (audit : AuditLevel) (e : Event) : PromptM Unit :=
  match audit with
  | none => return ()
  | some least => match e.checked with
    | .error f => throw f
    | .ok e =>
      if least ≤ e.level then modify fun s => { s with log := s.log ++ [e] } else return ()

@[simp] theorem apply_record_none (e : Event) (s : Session) :
    (record none e).apply s = (.ok (), s) := rfl

theorem apply_record_some (least : LogLevel) (e : Event) (s : Session) :
    (record (some least) e).apply s =
      if e.Recordable then
        (.ok (), if least ≤ e.level then { s with log := s.log ++ [e] } else s)
      else (.error .unrecordable, s) := by
  unfold record Event.checked
  by_cases h : e.Recordable
  · simp only [h, if_true]
    split <;> rfl
  · simp only [h, if_false]
    rfl

end DatePrompt
