import DatePrompt.Proofs.Auditing

/-!
# When feedback fails

Feedback turns the errors of an entry into no date, but not the error of an event that cannot be
recorded. The event of an entry quotes it, so with an audit the length of what the user types
decides whether there is feedback at all (`feedback_unless_overlong`).
-/

namespace DatePrompt

namespace Prompt

/-- A character takes at most ten when quoted, and 46 of them with the words around still fit. -/
theorem recordable_entryEvent_of_short {text : String} (h : text.length ≤ 46) (reference : Date)
    (correlation : Option String) (resolved : Except EntryError Resolution) :
    (entryEvent text reference correlation resolved).description.length ≤ Event.maxDescription := by
  have hwords := wordsAround_bounds resolved
  have hquoted := length_quoted_le text.toList
  have hmax : Event.maxDescription = 500 := rfl
  rw [String.length_toList] at hquoted
  rw [length_description_entryEvent]
  omega

theorem not_recordable_entryEvent_of_long {text : String} (h : 484 ≤ text.length) (reference : Date)
    (correlation : Option String) (resolved : Except EntryError Resolution) :
    Event.maxDescription < (entryEvent text reference correlation resolved).description.length := by
  have hwords := wordsAround_bounds resolved
  have hquoted := length_add_two_le_length_quoted text.toList
  have hmax : Event.maxDescription = 500 := rfl
  rw [String.length_toList] at hquoted
  rw [length_description_entryEvent]
  omega

end Prompt

/-! ## The answer -/

section Recorded

variable {α : Type} {audit : AuditLevel} {e : Event} {a : α}

theorem recorded_fst_eq_ok_iff :
    (recorded audit (some e) (.ok a)).1 = .ok a ↔ audit = none ∨ e.Recordable := by
  cases audit with
  | none => simp
  | some least =>
    by_cases h : e.Recordable
    · simp [recorded_of_recordable h, h]
    · simp [recorded_of_not_recordable h, h]

theorem recorded_fst_eq_unrecordable_iff :
    (recorded audit (some e) (.ok a)).1 = .error .unrecordable ↔ audit ≠ none ∧ ¬ e.Recordable := by
  cases audit with
  | none => simp
  | some least =>
    by_cases h : e.Recordable
    · simp [recorded_of_recordable h, h]
    · simp [recorded_of_not_recordable h, h]

end Recorded

/-- Nothing but the event of the entry comes between feedback and the date of the entry. -/
theorem Prompt.apply_feedback (p : Prompt) (text : String) (reference : Option Date) (s : Session) :
    let reference' := p.referenceAt s.reads reference
    let resolved := p.resolve text reference'
    ((p.feedback text reference).apply s).1 =
      (recorded p.audit (some (entryEvent text reference' none resolved))
        (.ok (resolved.toOption.map Resolution.date))).1 := by
  intro reference' resolved
  have hanswer : feedbackAnswer resolved = .ok (resolved.toOption.map Resolution.date) := by
    cases resolved <;> rfl
  have hdoes := p.feedback_does text reference s
  unfold PromptM.Does at hdoes
  rw [hdoes, hanswer]

/-- Feedback is the date that the entry resolves to, or none if it resolves to no date, just when
there is no audit or the event of the entry can be recorded. Otherwise it fails. An entry of at most
46 characters never makes it fail; with an audit, one of 484 characters or more always does. -/
theorem feedback_unless_overlong (p : Prompt) (text : String) (reference : Option Date)
    (s : Session) :
    let reference' := p.referenceAt s.reads reference
    let resolved := p.resolve text reference'
    let answer := ((p.feedback text reference).apply s).1
    let length := (Prompt.entryEvent text reference' none resolved).description.length
    (answer = .ok (resolved.toOption.map Resolution.date) ↔
      p.audit = none ∨ length ≤ Event.maxDescription) ∧
    (answer = .error .unrecordable ↔ p.audit ≠ none ∧ Event.maxDescription < length) ∧
    (text.length ≤ 46 → length ≤ Event.maxDescription) ∧
    (484 ≤ text.length → Event.maxDescription < length) := by
  intro reference' resolved answer length
  have hanswer : answer = _ := p.apply_feedback text reference s
  refine ⟨?_, ?_, fun h => ?_, fun h => ?_⟩
  · rw [hanswer]
    exact recorded_fst_eq_ok_iff
  · rw [hanswer, ← Nat.not_le]
    exact recorded_fst_eq_unrecordable_iff
  · exact Prompt.recordable_entryEvent_of_short h reference' none resolved
  · exact Prompt.not_recordable_entryEvent_of_long h reference' none resolved

/-- A short entry has feedback with an audit, whatever the audit records. -/
theorem feedback_unless_overlong_leap_day :
    ((Prompt.feedback ⟨Format.german, fun _ => ⟨2016, 6, 15, by decide⟩, true, some .error⟩ "29.2."
      none).apply .empty).1 = .ok (some ⟨2016, 2, 29, by decide⟩) := by
  obtain ⟨hanswer, -, hshort, -⟩ := feedback_unless_overlong
    ⟨Format.german, fun _ => ⟨2016, 6, 15, by decide⟩, true, some .error⟩ "29.2." none .empty
  exact hanswer.mpr (.inr (hshort (by decide)))

/-- Five hundred letters mean nothing, and with an audit feedback says not even that. -/
theorem feedback_lost :
    ((Prompt.feedback ⟨Format.german, fun _ => ⟨2016, 6, 15, by decide⟩, true, some .debug⟩
      (String.ofList (List.replicate 500 'x')) none).apply .empty).1 = .error .unrecordable := by
  have hlength : 484 ≤ (String.ofList (List.replicate 500 'x')).length := by
    rw [String.length_ofList, List.length_replicate]
    omega
  rw [Prompt.apply_feedback, recorded_fst_eq_unrecordable_iff]
  refine ⟨Option.some_ne_none _, Nat.not_le.mpr ?_⟩
  exact Prompt.not_recordable_entryEvent_of_long hlength _ _ _

end DatePrompt
