import DatePrompt.Proofs.Auditing
import DatePrompt.Proofs.Opening
import DatePrompt.Prompt.Run
import DatePrompt.Settings.Basic

/-!
# What the level of the log changes

Whether an event can be recorded is decided before its level is looked at. So the level changes
nothing but the log: at a higher level every outcome is the same with the lesser events left out
(`Outcome.atLevel`). This is shown for what goes with an answer (`recordedAll_of_le`), for a step,
for a session, and last for the sessions of any two settings that differ in the level, wherever the
settings come from.
-/

namespace DatePrompt

/-- The outcome with the events of a level and above. -/
def Outcome.atLevel (least : LogLevel) (o : Outcome) : Outcome :=
  { o with events := o.events.filter (least ≤ ·.level) }

section Levels

variable {a b : LogLevel}

/-- What is left at a higher level is left of what a lower level leaves. -/
theorem filter_level_of_le (h : a ≤ b) (events : List Event) :
    (events.filter (a ≤ ·.level)).filter (b ≤ ·.level) = events.filter (b ≤ ·.level) := by
  rw [List.filter_filter]
  refine List.filter_congr fun e _ => ?_
  rw [← Bool.decide_and, decide_eq_decide, and_iff_left_iff_imp]
  exact LogLevel.le_trans h

theorem recordedAll_of_le {α : Type} (h : a ≤ b) (events : List Event)
    (answer : Except Failure α) :
    recordedAll (some b) events answer = ((recordedAll (some a) events answer).1,
      (recordedAll (some a) events answer).2.filter (b ≤ ·.level)) := by
  by_cases hall : ∀ e ∈ events, e.Recordable
  · rw [recordedAll_of_recordable answer hall, recordedAll_of_recordable answer hall,
      filter_level_of_le h]
  · rw [recordedAll_of_not_recordable answer hall, recordedAll_of_not_recordable answer hall]
    rfl

namespace Prompt

variable (p : Prompt)

theorem outcomeAt_of_le (h : a ≤ b) (n : Nat) (step : Step) :
    (p.withAudit (some b)).outcomeAt n step =
      ((p.withAudit (some a)).outcomeAt n step).atLevel b := by
  rw [outcomeAt_withAudit, outcomeAt_withAudit, recorded_eq_recordedAll,
    recorded_eq_recordedAll, recordedAll_of_le h]
  rfl

theorem run_of_le (h : a ≤ b) (steps : List Step) :
    (p.withAudit (some b)).run steps =
      ((p.withAudit (some a)).run steps).map (Outcome.atLevel b) := by
  refine List.ext_getElem? fun i => ?_
  rw [List.getElem?_map, getElem?_run, getElem?_run, Option.map_map]
  congr 1
  funext step
  exact p.outcomeAt_of_le h _ step

/-- A step whose event cannot be recorded fails at every level. -/
theorem outcomeAt_of_overlong {n : Nat} {step : Step} {e : Event}
    (hevent : p.eventAt n step = some e) (hlong : Event.maxDescription < e.description.length)
    (least : LogLevel) :
    (p.withAudit (some least)).outcomeAt n step = ⟨.error .unrecordable, [], step.reads⟩ := by
  rw [outcomeAt_withAudit, hevent, recorded_of_not_recordable (Nat.not_le_of_lt hlong)]

end Prompt

/-! ## Sessions with their opening -/

section Opened

variable {template : String} {clock : Clock} {journal : Bool} {least : LogLevel}

theorem runSession_of_not_recordable
    (h : ¬ ∀ e ∈ Prompt.openingEvents template, e.Recordable) (steps : List Step) :
    runSession (Prompt.openTemplate template clock journal (some least)) steps =
      [⟨.error .unrecordable, [], 0⟩] := by
  unfold runSession
  rw [Prompt.apply_openTemplate, recordedAll_of_not_recordable _ h]
  rfl

theorem runSession_of_refused {e : FormatError}
    (h : ∀ e ∈ Prompt.openingEvents template, e.Recordable)
    (husable : Format.ofUsable template = .error e) (steps : List Step) :
    runSession (Prompt.openTemplate template clock journal (some least)) steps =
      [⟨.error (.format e), (Prompt.openingEvents template).filter (least ≤ ·.level), 0⟩] := by
  unfold runSession
  rw [Prompt.apply_openTemplate, recordedAll_of_recordable _ h, Prompt.openingAnswer, husable]
  rfl

theorem runSession_of_usable {f : Format}
    (h : ∀ e ∈ Prompt.openingEvents template, e.Recordable)
    (husable : Format.ofUsable template = .ok f) (steps : List Step) :
    runSession (Prompt.openTemplate template clock journal (some least)) steps =
      ⟨.ok (.text f.template), (Prompt.openingEvents template).filter (least ≤ ·.level), 0⟩ ::
        (Prompt.mk f clock journal (some least)).run steps := by
  unfold runSession
  rw [Prompt.apply_openTemplate, recordedAll_of_recordable _ h, Prompt.openingAnswer, husable]
  dsimp only
  rw [Prompt.runFrom_eq_run_later]
  simp [Session.empty]

/-- After the opening come the outcomes of the steps, if there is a prompt. -/
theorem exists_run_of_getElem?_runSession {steps : List Step} {i : Nat} {o : Outcome}
    (ho : (runSession (Prompt.openTemplate template clock journal (some least)) steps)[i + 1]? =
      some o) :
    ∃ f, Format.ofTemplate template = .ok f ∧
      ((Prompt.mk f clock journal (some least)).run steps)[i]? = some o := by
  by_cases hall : ∀ e ∈ Prompt.openingEvents template, e.Recordable
  · cases husable : Format.ofUsable template with
    | error e =>
      rw [runSession_of_refused hall husable] at ho
      cases ho
    | ok f =>
      rw [runSession_of_usable hall husable] at ho
      exact ⟨f, (Format.ofUsable_eq_ok_iff.mp husable).1, ho⟩
  · rw [runSession_of_not_recordable hall] at ho
    cases ho

end Opened

theorem runSession_of_le (h : a ≤ b) (template : String) (clock : Clock) (journal : Bool)
    (steps : List Step) :
    runSession (Prompt.openTemplate template clock journal (some b)) steps =
      (runSession (Prompt.openTemplate template clock journal (some a)) steps).map
        (Outcome.atLevel b) := by
  by_cases hall : ∀ e ∈ Prompt.openingEvents template, e.Recordable
  · have hfirst := filter_level_of_le h (Prompt.openingEvents template)
    cases husable : Format.ofUsable template with
    | error e =>
      rw [runSession_of_refused hall husable, runSession_of_refused hall husable, ← hfirst]
      rfl
    | ok f =>
      have hrun : (Prompt.mk f clock journal (some b)).run steps =
          ((Prompt.mk f clock journal (some a)).run steps).map (Outcome.atLevel b) :=
        (Prompt.mk f clock journal none).run_of_le h steps
      rw [runSession_of_usable hall husable, runSession_of_usable hall husable, ← hfirst, hrun]
      rfl
  · rw [runSession_of_not_recordable hall, runSession_of_not_recordable hall]
    rfl

/-- What the events have no part in is the same at every level. -/
theorem map_runSession_eq {α : Type} {g : Outcome → α} (hg : ∀ l o, g (Outcome.atLevel l o) = g o)
    (a b : LogLevel) (template : String) (clock : Clock) (journal : Bool) (steps : List Step) :
    (runSession (Prompt.openTemplate template clock journal (some b)) steps).map g =
      (runSession (Prompt.openTemplate template clock journal (some a)) steps).map g := by
  rcases LogLevel.le_total a b with h | h
  · rw [runSession_of_le h, List.map_map]
    exact List.map_congr_left fun o _ => hg b o
  · rw [runSession_of_le h, List.map_map]
    exact (List.map_congr_left fun o _ => hg a o).symm

end Levels

/-! ## Settings -/

/-- The settings are the same but for the level. -/
def Settings.SameButLevel (settings settings' : Settings) : Prop :=
  settings'.template = settings.template ∧ settings'.journal = settings.journal

/-- Sessions with settings that differ in the level only: what is answered, and how often the clock
is read, is the same, and at the higher level the log is that of the lower one with the lesser
events left out. An event that cannot be recorded makes the opening of the prompt or its step fail
at every level. -/
theorem level_only_filters {settings settings' : Settings} (hsame : settings.SameButLevel settings')
    (clock : Clock) (steps : List Step) :
    let outcomes := runSession (settings.openPrompt clock) steps
    let outcomes' := runSession (settings'.openPrompt clock) steps
    outcomes'.map (·.answer) = outcomes.map (·.answer) ∧
    outcomes'.map (·.reads) = outcomes.map (·.reads) ∧
    (settings.level ≤ settings'.level → outcomes'.map (·.events) =
      outcomes.map fun o => o.events.filter (settings'.level ≤ ·.level)) ∧
    ((∃ e ∈ Prompt.openingEvents settings'.template,
        Event.maxDescription < e.description.length) →
      outcomes' = [⟨.error .unrecordable, [], 0⟩]) ∧
    ∀ (i : Nat) (step : Step) (e : Event), steps[i]? = some step →
      (Prompt.mk settings'.format clock settings'.journal none).eventAt
        (Step.readsBefore steps i) step = some e →
      Event.maxDescription < e.description.length →
      ∀ o, outcomes'[i + 1]? = some o → o.answer = .error .unrecordable := by
  obtain ⟨htemplate, hjournal⟩ := hsame
  have hopen' : settings'.openPrompt clock =
      Prompt.openTemplate settings.template clock settings.journal (some settings'.level) := by
    rw [Settings.openPrompt, htemplate, hjournal]
  rw [Settings.openPrompt, hopen']
  refine ⟨?_, ?_, ?_, ?_, ?_⟩
  · exact map_runSession_eq (fun _ _ => rfl) _ _ _ _ _ _
  · exact map_runSession_eq (fun _ _ => rfl) _ _ _ _ _ _
  · intro hle
    rw [runSession_of_le hle, List.map_map]
    rfl
  · rintro ⟨e, he, hlong⟩
    refine runSession_of_not_recordable (fun hall => ?_) steps
    rw [htemplate] at he
    exact absurd (hall e he) (Nat.not_le_of_lt hlong)
  · intro i step e hstep hevent hlong o ho
    -- the prompt that was opened has the format of the settings
    obtain ⟨f, hread, hi⟩ := exists_run_of_getElem?_runSession ho
    have hformat : settings'.format = f := by
      have hcompiles := settings'.compiles
      rw [htemplate, hread] at hcompiles
      exact (Except.ok.inj hcompiles).symm
    rw [hformat, hjournal] at hevent
    have houtcome := Prompt.outcomeAt_of_overlong _ hevent hlong settings'.level
    rw [Prompt.getElem?_run, hstep] at hi
    cases hi
    exact congrArg Outcome.answer houtcome

/-- The template lacks the year, which is a warning, and the entry that is resolved is none. -/
theorem level_only_filters_warning :
    ∃ all grave : Settings,
      all.template = "%d.%m." ∧ all.level = .debug ∧ grave.level = .warning ∧
      all.SameButLevel grave ∧ all.level ≤ grave.level ∧
      let outcomes := runSession (all.openPrompt fun _ => .last) [.submit "2.12." none none]
      let outcomes' := runSession (grave.openPrompt fun _ => .last) [.submit "2.12." none none]
      outcomes.map (·.events.length) = [2, 1] ∧
      outcomes'.map (·.answer) = outcomes.map (·.answer) ∧
      outcomes'.map (·.events) = outcomes.map fun o => o.events.filter (.warning ≤ ·.level) := by
  obtain ⟨hanswers, -, hevents, -⟩ := @level_only_filters
    ⟨"%d.%m.", _, true, .debug, rfl⟩ ⟨"%d.%m.", _, true, .warning, rfl⟩ ⟨rfl, rfl⟩ (fun _ => .last)
    [.submit "2.12." none none]
  refine ⟨⟨"%d.%m.", _, true, .debug, rfl⟩, ⟨"%d.%m.", _, true, .warning, rfl⟩, rfl, rfl, rfl,
    ⟨rfl, rfl⟩, by decide, by decide +kernel, hanswers, hevents (by decide)⟩

end DatePrompt
