import DatePrompt.Proofs.ErrorNotes
import DatePrompt.Proofs.Report
import DatePrompt.Proofs.Steps

/-!
# What opening a template leaves in the log

A template that is refused leaves one event, and one that is usable leaves its warnings and one
event more. The descriptions of these events do not get longer from one to the next. So if any
of them cannot be recorded, the first cannot, and nothing is recorded
(`Prompt.apply_openTemplate`): a failure never leaves some of the events only.
-/

namespace DatePrompt

/-! ## Recording several events -/

/-- An answer and what is recorded when several events go with it. If one of them cannot be
recorded, none is and the answer is lost. -/
def recordedAll {α : Type} (audit : AuditLevel) (events : List Event) (answer : Except Failure α) :
    Except Failure α × List Event :=
  match audit with
  | none => (answer, [])
  | some least =>
    if ∀ e ∈ events, e.Recordable then (answer, events.filter (least ≤ ·.level))
    else (.error .unrecordable, [])

theorem recorded_eq_recordedAll {α : Type} (audit : AuditLevel) (event? : Option Event)
    (answer : Except Failure α) :
    recorded audit event? answer = recordedAll audit event?.toList answer := by
  cases audit with
  | none => exact recorded_none_audit event?
  | some least =>
    cases event? with
    | none => simp [recordedAll]
    | some e =>
      by_cases he : e.Recordable
      · rw [recorded_of_recordable he]
        simp [recordedAll, he, List.filter_cons]
      · rw [recorded_of_not_recordable he]
        simp [recordedAll, he]

section RecordedAll

variable {α : Type} {least : LogLevel} {events : List Event} (answer : Except Failure α)

theorem recordedAll_of_recordable (h : ∀ e ∈ events, e.Recordable) :
    recordedAll (some least) events answer = (answer, events.filter (least ≤ ·.level)) :=
  if_pos h

theorem recordedAll_of_not_recordable (h : ¬ ∀ e ∈ events, e.Recordable) :
    recordedAll (some least) events answer = (.error .unrecordable, []) :=
  if_neg h

theorem recordedAll_debug (h : ∀ e ∈ events, e.Recordable) :
    recordedAll (some .debug) events answer = (answer, events) := by
  rw [recordedAll_of_recordable answer h, List.filter_eq_self.mpr]
  intro e _
  exact decide_eq_true (LogLevel.debug_le e.level)

end RecordedAll

/-- The descriptions of the events do not get longer from one to the next. -/
def LongestFirst (events : List Event) : Prop :=
  events.Pairwise fun e e' => e'.description.length ≤ e.description.length

theorem LongestFirst.forall_recordable {e : Event} {events : List Event}
    (h : LongestFirst (e :: events)) (he : e.Recordable) : ∀ e' ∈ e :: events, e'.Recordable := by
  obtain ⟨hhead, _⟩ := List.pairwise_cons.mp h
  intro e' hmem
  rcases List.mem_cons.mp hmem with rfl | hmem
  · exact he
  · exact Nat.le_trans (hhead e' hmem) he

namespace PromptM

variable {α : Type} {events : List Event}

theorem apply_forM_record_none (events : List Event) (s : Session) :
    (events.forM (record none)).apply s = (.ok (), s) := by
  induction events with
  | nil => rfl
  | cons e events ih => exact ih

theorem apply_forM_record_some {least : LogLevel} (h : ∀ e ∈ events, e.Recordable) (s : Session) :
    (events.forM (record (some least))).apply s =
      (.ok (), ⟨s.reads, s.log ++ events.filter (least ≤ ·.level)⟩) := by
  induction events generalizing s with
  | nil => simp [List.forM]
  | cons e events ih =>
    obtain ⟨he, hevents⟩ := List.forall_mem_cons.mp h
    show (record (some least) e >>= fun _ => events.forM (record (some least))).apply s = _
    rw [apply_bind, apply_record_some, if_pos he]
    dsimp only
    rw [ih hevents]
    by_cases hlevel : least ≤ e.level
    · simp [hlevel]
    · simp [hlevel]

theorem apply_forM_record_cons {least : LogLevel} {e : Event} (he : ¬ e.Recordable)
    (events : List Event) (s : Session) :
    ((e :: events).forM (record (some least))).apply s = (.error .unrecordable, s) := by
  show (record (some least) e >>= fun _ => events.forM (record (some least))).apply s = _
  rw [apply_bind, apply_record_some, if_neg he]

/-- Events are recorded before an action that leaves the session alone. -/
theorem apply_forM_record_bind {answer : Except Failure α} {k : Unit → PromptM α}
    (hk : ∀ s, (k ()).apply s = (answer, s)) (h : LongestFirst events) (audit : AuditLevel)
    (s : Session) :
    (events.forM (record audit) >>= k).apply s = ((recordedAll audit events answer).1,
      ⟨s.reads, s.log ++ (recordedAll audit events answer).2⟩) := by
  rw [apply_bind]
  cases audit with
  | none =>
    rw [apply_forM_record_none]
    simp [recordedAll, hk]
  | some least =>
    by_cases hall : ∀ e ∈ events, e.Recordable
    · rw [apply_forM_record_some hall, recordedAll_of_recordable answer hall]
      exact hk _
    · rw [recordedAll_of_not_recordable answer hall]
      -- the first description is the longest, so it is the first event that cannot be recorded
      cases events with
      | nil => exact absurd (List.forall_mem_nil _) hall
      | cons e events =>
        rw [apply_forM_record_cons (mt h.forall_recordable hall)]
        simp

end PromptM

/-! ## The events of a template -/

/-- The format of a usable template, or why the template is refused. -/
def Format.ofUsable (template : String) : Except FormatError Format :=
  match Format.ofTemplate template with
  | .error e => .error (.malformed e)
  | .ok f =>
    if (Report.ofFormat template f).valid then .ok f
    else .error (.unusable template (Report.ofFormat template f).errors)

/-- What a template is refused for: it is malformed, or its report has errors, and their messages
are the reasons. -/
inductive Refused (template : String) : FormatError → Prop
  | malformed {e : TemplateError} (h : Format.ofTemplate template = .error e) :
      Refused template (.malformed e)
  | unusable {f : Format} (h : Format.ofTemplate template = .ok f)
      (hvalid : (Report.ofTemplate template).valid = false) :
      Refused template (.unusable template
        (((Report.ofTemplate template).issues.filter (·.level = .error)).map (·.message)))

namespace Format

variable {template : String} {f : Format}

theorem refused_of_ofUsable {e : FormatError} (h : ofUsable template = .error e) :
    Refused template e := by
  unfold ofUsable at h
  cases hread : ofTemplate template with
  | error e' =>
    rw [hread] at h
    cases h
    exact .malformed hread
  | ok f =>
    rw [hread] at h
    dsimp only at h
    split at h
    · cases h
    · rename_i hvalid
      cases h
      rw [← Report.ofTemplate_of_ok hread] at hvalid ⊢
      exact .unusable hread (Bool.not_eq_true _ ▸ hvalid)

theorem ofUsable_eq_ok_iff : ofUsable template = .ok f ↔
    ofTemplate template = .ok f ∧ (Report.ofTemplate template).valid = true := by
  unfold ofUsable
  cases hread : ofTemplate template with
  | error e => simp
  | ok g =>
    rw [Report.ofTemplate_of_ok hread]
    by_cases hvalid : (Report.ofFormat template g).valid = true
    · simp [hvalid]
    · simp [hvalid]

end Format

namespace Prompt

variable (template : String)

/-- The events of a template being opened. -/
def openingEvents : List Event :=
  match Format.ofUsable template with
  | .error e => [.formatRejected template ⟨e.kind, e.message⟩]
  | .ok f => (Report.ofTemplate template).warnings.map (.formatWarning template) ++
      [.formatCompiled template f.segments.length]

/-- What comes of a template being opened if its events can be recorded. -/
def openingAnswer (clock : Clock) (journal : Bool) (audit : AuditLevel) : Except Failure Prompt :=
  match Format.ofUsable template with
  | .error e => .error (.format e)
  | .ok format => .ok { format, clock, journal, audit }

end Prompt

/-! ## How long a template can be

A description holds the template and a sentence of 22 characters around it, or of 28 for a
warning. -/

namespace Event

variable {template : String}

theorem recordable_formatRejected_iff {e : ErrorNote} :
    (formatRejected template e).Recordable ↔ template.length ≤ 478 := by
  have hlength : "Date format rejected: ".length = 22 := by decide
  unfold Recordable maxDescription description
  rw [String.length_append, hlength]
  omega

theorem length_description_formatCompiled {n : Int} :
    (formatCompiled template n).description.length = template.length + 22 := by
  have hlength : "Date format compiled: ".length = 22 := by decide
  unfold description
  rw [String.length_append, hlength, Nat.add_comm]

theorem length_description_formatWarning {message : String} :
    (formatWarning template message).description.length = template.length + 28 := by
  have hlength : "Date format ".length = 12 := by decide
  have hlength' : " needs attention".length = 16 := by decide
  unfold description
  rw [String.length_append, String.length_append, hlength, hlength']
  omega

theorem recordable_formatCompiled_iff {n : Int} :
    (formatCompiled template n).Recordable ↔ template.length ≤ 478 := by
  unfold Recordable maxDescription
  rw [length_description_formatCompiled]
  omega

theorem recordable_formatWarning_iff {message : String} :
    (formatWarning template message).Recordable ↔ template.length ≤ 472 := by
  unfold Recordable maxDescription
  rw [length_description_formatWarning]
  omega

theorem longestFirst_opening (warnings : List String) (n : Int) :
    LongestFirst (warnings.map (formatWarning template) ++ [formatCompiled template n]) := by
  refine List.pairwise_append.mpr ⟨?_, List.pairwise_singleton _ _, ?_⟩
  · refine List.pairwise_map.mpr (List.pairwise_of_forall fun _ _ => ?_)
    exact Nat.le_of_eq (by rw [length_description_formatWarning, length_description_formatWarning])
  · intro e he e' he'
    obtain ⟨_, _, rfl⟩ := List.mem_map.mp he
    rw [List.mem_singleton.mp he', length_description_formatWarning,
      length_description_formatCompiled]
    omega

theorem forall_recordable_opening_iff {warnings : List String} {n : Int} :
    (∀ e ∈ warnings.map (formatWarning template) ++ [formatCompiled template n], e.Recordable) ↔
      template.length ≤ 478 ∧ (warnings = [] ∨ template.length ≤ 472) := by
  constructor
  · intro h
    have hcompiled := h _ (List.mem_append_right _ List.mem_cons_self)
    rw [recordable_formatCompiled_iff] at hcompiled
    refine ⟨hcompiled, or_iff_not_imp_left.mpr fun hne => ?_⟩
    obtain ⟨warning, hwarning⟩ := List.exists_mem_of_ne_nil _ hne
    have hrecordable := h _ (List.mem_append_left _ (List.mem_map_of_mem hwarning))
    rwa [recordable_formatWarning_iff] at hrecordable
  · rintro ⟨hcompiled, hwarnings⟩ e he
    rcases List.mem_append.mp he with he | he
    · obtain ⟨warning, hwarning, rfl⟩ := List.mem_map.mp he
      have hshort := hwarnings.resolve_left (List.ne_nil_of_mem hwarning)
      exact recordable_formatWarning_iff.mpr hshort
    · rw [List.mem_singleton.mp he]
      exact recordable_formatCompiled_iff.mpr hcompiled

end Event

namespace Prompt

theorem apply_refuse (audit : AuditLevel) (template : String) (e : FormatError) (s : Session) :
    let recorded := recordedAll audit [.formatRejected template ⟨e.kind, e.message⟩]
      (.error (.format e) : Except Failure Prompt)
    (refuse audit template e).apply s = (recorded.1, ⟨s.reads, s.log ++ recorded.2⟩) := by
  have hdoes : (refuse audit template e : PromptM Prompt).Does audit s 0
      (some (.formatRejected template ⟨e.kind, e.message⟩)) (.error (.format e)) :=
    PromptM.Does.record_bind (fun _ => rfl) _
  unfold PromptM.Does at hdoes
  rw [hdoes, recorded_eq_recordedAll]
  rfl

theorem forM_record_opening {α : Type} (audit : AuditLevel) (template : String)
    (warnings : List String) (n : Int) (k : PromptM α) :
    (do
      warnings.forM fun warning => record audit (.formatWarning template warning)
      record audit (.formatCompiled template n)
      k) =
    (warnings.map (Event.formatWarning template) ++ [Event.formatCompiled template n]).forM
      (record audit) >>= fun _ => k := by
  simp [List.forM_append]

/-- What opening a template does to a session. -/
theorem apply_openTemplate (template : String) (clock : Clock) (journal : Bool)
    (audit : AuditLevel) (s : Session) :
    let recorded := recordedAll audit (openingEvents template)
      (openingAnswer template clock journal audit)
    (openTemplate template clock journal audit).apply s =
      (recorded.1, ⟨s.reads, s.log ++ recorded.2⟩) := by
  unfold openTemplate openingEvents openingAnswer Format.ofUsable
  cases hread : Format.ofTemplate template with
  | error e => exact apply_refuse audit template (.malformed e) s
  | ok f =>
    rw [Report.ofTemplate_of_ok hread]
    dsimp only
    by_cases hvalid : (Report.ofFormat template f).valid = true
    · rw [if_pos hvalid, if_pos hvalid, forM_record_opening]
      exact PromptM.apply_forM_record_bind (k := fun _ => pure (Prompt.mk f clock journal audit))
        (fun _ => rfl) (Event.longestFirst_opening _ _) audit s
    · rw [if_neg hvalid, if_neg hvalid]
      exact apply_refuse audit template (.unusable template _) s

/-- With every event recorded, opening a template leaves all its events or none. -/
theorem apply_openTemplate_debug (template : String) (clock : Clock) (journal : Bool)
    (s : Session) :
    let opened := (openTemplate template clock journal (some .debug)).apply s
    (∀ e ∈ openingEvents template, e.Recordable) ∧
      opened = (openingAnswer template clock journal (some .debug),
        ⟨s.reads, s.log ++ openingEvents template⟩) ∨
    (¬ ∀ e ∈ openingEvents template, e.Recordable) ∧ opened = (.error .unrecordable, s) := by
  intro opened
  have hopened := apply_openTemplate template clock journal (some .debug) s
  by_cases h : ∀ e ∈ openingEvents template, e.Recordable
  · rw [recordedAll_debug _ h] at hopened
    exact .inl ⟨h, hopened⟩
  · rw [recordedAll_of_not_recordable _ h] at hopened
    dsimp only at hopened
    rw [List.append_nil] at hopened
    exact .inr ⟨h, hopened⟩

end Prompt

/-- Opening a template with every event recorded either refuses the template and leaves the one
event that notes the error, or opens a prompt and leaves the warnings of the report and the number
of segments, or fails because the template is too long for its events and leaves nothing. -/
theorem opening_all_or_nothing (template : String) (clock : Clock) (journal : Bool) (s : Session) :
    let report := Report.ofTemplate template
    let opened := (Prompt.openTemplate template clock journal (some .debug)).apply s
    (∃ e note, Refused template e ∧ e.Noted note ∧ template.length ≤ 478 ∧
      (Event.formatRejected template note).Shows "format_rejected" [("template", .text template)]
        (some note) ∧
      opened = (.error (.format e), ⟨s.reads, s.log ++ [.formatRejected template note]⟩)) ∨
    (∃ f, Format.ofTemplate template = .ok f ∧ report.valid = true ∧ template.length ≤ 478 ∧
      (report.warnings = [] ∨ template.length ≤ 472) ∧
      (∀ warning ∈ report.warnings, (Event.formatWarning template warning).Shows "format_warning"
        [("template", .text template), ("message", .text warning)] none) ∧
      (Event.formatCompiled template f.segments.length).Shows "format_compiled"
        [("template", .text template), ("segment_count", .count f.segments.length)] none ∧
      opened = (.ok ⟨f, clock, journal, some .debug⟩,
        ⟨s.reads, s.log ++ (report.warnings.map (.formatWarning template) ++
          [.formatCompiled template f.segments.length])⟩)) ∨
    ((478 < template.length ∨
        report.valid = true ∧ report.warnings ≠ [] ∧ 472 < template.length) ∧
      opened = (.error .unrecordable, s)) := by
  intro report opened
  have hopened := Prompt.apply_openTemplate_debug template clock journal s
  unfold Prompt.openingEvents Prompt.openingAnswer at hopened
  cases husable : Format.ofUsable template with
  | error e =>
    simp only [husable, List.forall_mem_singleton, Event.recordable_formatRejected_iff] at hopened
    rcases hopened with ⟨hlength, hrefused⟩ | ⟨hlength, hfailed⟩
    · exact .inl ⟨e, _, Format.refused_of_ofUsable husable, e.noted, hlength, ⟨rfl, rfl, rfl⟩,
        hrefused⟩
    · exact .inr (.inr ⟨.inl (Nat.lt_of_not_le hlength), hfailed⟩)
  | ok f =>
    obtain ⟨hread, hvalid⟩ := Format.ofUsable_eq_ok_iff.mp husable
    simp only [husable, Event.forall_recordable_opening_iff] at hopened
    rcases hopened with ⟨⟨hlength, hwarnings⟩, hopened⟩ | ⟨hlength, hfailed⟩
    · exact .inr (.inl ⟨f, hread, hvalid, hlength, hwarnings, fun _ _ => ⟨rfl, rfl, rfl⟩,
        ⟨rfl, rfl, rfl⟩, hopened⟩)
    · refine .inr (.inr ⟨?_, hfailed⟩)
      by_cases hlong : template.length ≤ 478
      · obtain ⟨hwarnings, hlonger⟩ := not_or.mp (not_and.mp hlength hlong)
        exact .inr ⟨hvalid, hwarnings, Nat.lt_of_not_le hlonger⟩
      · exact .inl (Nat.lt_of_not_le hlong)

end DatePrompt
