import DatePrompt.Proofs.Opening
import DatePrompt.Report.Summary

/-!
# What the summary of a report tells

The report on a template is coherent: its verdict and its warnings are those of its issues, of which
at most one is an error (`Report.coherent_ofTemplate`). The summary of a coherent report begins with
the mark of the verdict, and its bullets are the errors and the warnings in the order of the issues
(`Report.Coherent.startsWith_mark_iff`, `Report.Coherent.filter_isBullet_summaryLines`). Coherence
is needed, as the summary looks at the verdict and the warnings before it looks at the errors.
-/

namespace DatePrompt

/-! ## Coherent reports -/

/-- The only error that can be found about a format is that no entry can be completed. -/
theorem Format.filter_error_findings (f : Format) :
    f.findings.filter (·.level = .error) =
      if f.stops.any (·.Completable) then [] else [.unusable] := by
  have hends : (deadEndsFrom 0 [] f.stops).filter (·.level = .error) = [] := by
    obtain ⟨ends, _, heq⟩ := exists_deadEndsFrom_eq 0 [] f.stops
    rw [heq, List.filter_eq_nil_iff]
    intro x hx
    obtain ⟨s, _, rfl⟩ := List.mem_map.mp hx
    simp [Finding.level]
  have hmissing : ((Component.all.filter (! f.shape.has ·)).map Finding.missing).filter
      (·.level = .error) = [] := by
    rw [List.filter_eq_nil_iff]
    intro x hx
    obtain ⟨c, _, rfl⟩ := List.mem_map.mp hx
    simp [Finding.level]
  rw [findings, List.filter_append, List.filter_append, List.filter_append, hends, hmissing]
  split <;> split <;> rfl

namespace Report

/-- The verdict, the number of errors and the warnings of a report are those of its issues. -/
structure Coherent (r : Report) : Prop where
  valid_iff : r.valid = true ↔ r.errorCount = 0
  errorCount_le : r.errorCount ≤ 1
  warnings_eq : r.warnings = messagesAt .warning r.issues

theorem errorCount_ofFormat (template : String) (f : Format) :
    (ofFormat template f).errorCount = if f.stops.any (·.Completable) then 0 else 1 := by
  have hcount : (ofFormat template f).errorCount = f.findings.countP (·.level = .error) :=
    List.countP_map
  rw [hcount, List.countP_eq_length_filter, f.filter_error_findings]
  split <;> rfl

theorem coherent_ofFormat (template : String) (f : Format) : (ofFormat template f).Coherent where
  valid_iff := by
    rw [valid_ofFormat, errorCount_ofFormat]
    simp
  errorCount_le := by
    rw [errorCount_ofFormat]
    split <;> omega
  warnings_eq := rfl

theorem coherent_ofError (e : TemplateError) : (ofError e).Coherent where
  valid_iff := by
    have hcount : (ofError e).errorCount = 1 := rfl
    have hvalid : (ofError e).valid = false := rfl
    simp [hcount, hvalid]
  errorCount_le := Nat.le_refl 1
  warnings_eq := rfl

theorem coherent_ofTemplate (template : String) : (ofTemplate template).Coherent := by
  cases hread : Format.ofTemplate template with
  | ok f => exact ofTemplate_of_ok hread ▸ coherent_ofFormat template f
  | error e => exact ofTemplate_of_error hread ▸ coherent_ofError e

/-! ## The mark of the verdict -/

/-- What a report comes to. -/
inductive Verdict
  | accepted
  | doubtful
  | refused

/-- The sign with which the summary begins. -/
def Verdict.mark : Verdict → String
  | accepted => "✅"
  | doubtful => "⚠️"
  | refused => "❌"

theorem Verdict.startsWith_mark_append_iff (v w : Verdict) (rest : String) :
    (v.mark ++ rest).startsWith w.mark = true ↔ v = w := by
  rw [String.startsWith_string_iff, String.toList_append]
  cases v <;> cases w <;> simp [mark]

theorem Verdict.eq_doubtful_iff (v : Verdict) : v = .doubtful ↔ v ≠ .accepted ∧ v ≠ .refused := by
  cases v <;> simp

/-- The verdict that the summary goes by. -/
def verdict (r : Report) : Verdict :=
  if r.valid then if r.warnings.isEmpty then .accepted else .doubtful else .refused

theorem verdict_eq_accepted_iff {r : Report} :
    r.verdict = .accepted ↔ r.valid = true ∧ r.warnings = [] := by
  unfold verdict
  cases r.valid <;> cases r.warnings <;> simp

theorem verdict_eq_refused_iff {r : Report} : r.verdict = .refused ↔ r.valid = false := by
  unfold verdict
  cases r.valid <;> cases r.warnings <;> simp

theorem exists_summary_of_accepted {r : Report} (hvalid : r.valid = true)
    (hwarnings : r.warnings = []) : ∃ rest, r.summary = Verdict.accepted.mark ++ rest := by
  refine ⟨" Date format " ++ quoted r.template.toList ++ " is valid.", ?_⟩
  rw [summary, summaryLines, if_pos ⟨hvalid, List.isEmpty_iff.mpr hwarnings⟩,
    String.intercalate_singleton, ← String.append_assoc, ← String.append_assoc]
  rfl

theorem exists_summary_of_doubtful {r : Report} (herrors : r.hasErrors = false)
    (hwarnings : r.warnings ≠ []) : ∃ rest, r.summary = Verdict.doubtful.mark ++ rest := by
  have hpart : r.errorPart = [] := by simp [errorPart, herrors]
  have hempty : ¬ r.warnings.isEmpty = true := mt List.isEmpty_iff.mp hwarnings
  have hlines : r.summaryLines =
      (Verdict.doubtful.mark ++ " Please check the following:") :: r.warnings.map bullet := by
    rw [summaryLines, if_neg fun h => hempty h.2, hpart, warningPart, if_neg hempty]
    rfl
  rw [summary, hlines, String.intercalate_cons_append]
  exact ⟨_, rfl⟩

theorem exists_summary_of_refused {r : Report} (hvalid : r.valid = false)
    (herrors : r.hasErrors = true) : ∃ rest, r.summary = Verdict.refused.mark ++ rest := by
  have hhead : ∀ text : String, "❌ Date format " ++ text ++ " cannot be used:" =
      Verdict.refused.mark ++ (" Date format " ++ text ++ " cannot be used:") := by
    intro text
    rw [← String.append_assoc, ← String.append_assoc]
    rfl
  have hrefused : ¬ (r.valid = true ∧ r.warnings.isEmpty) := by simp [hvalid]
  rw [summary, summaryLines, if_neg hrefused, errorPart, if_pos herrors, hhead, List.cons_append,
    List.cons_append, String.intercalate_cons_append]
  exact ⟨_, rfl⟩

namespace Coherent

variable {r : Report} (h : r.Coherent)
include h

theorem hasErrors_iff : r.hasErrors = true ↔ r.valid = false := by
  rw [← Bool.not_eq_true, h.valid_iff, errorCount, hasErrors, List.any_eq_true, List.countP_eq_zero]
  simp

theorem exists_summary_eq : ∃ rest, r.summary = r.verdict.mark ++ rest := by
  cases hvalid : r.valid with
  | false =>
    rw [verdict_eq_refused_iff.mpr hvalid]
    exact exists_summary_of_refused hvalid (h.hasErrors_iff.mpr hvalid)
  | true =>
    by_cases hwarnings : r.warnings = []
    · rw [verdict_eq_accepted_iff.mpr ⟨hvalid, hwarnings⟩]
      exact exists_summary_of_accepted hvalid hwarnings
    · have hverdict : r.verdict = .doubtful := by simp [verdict, hvalid, hwarnings]
      have herrors : r.hasErrors = false := by simpa [hvalid] using h.hasErrors_iff
      rw [hverdict]
      exact exists_summary_of_doubtful herrors hwarnings

theorem summary_ne_empty : r.summary ≠ "" := by
  obtain ⟨rest, heq⟩ := h.exists_summary_eq
  rw [heq]
  cases r.verdict <;> simp [Verdict.mark]

/-- The summary begins with the mark of the verdict and with no other. -/
theorem startsWith_mark_iff (v : Verdict) :
    r.summary.startsWith v.mark = true ↔ r.verdict = v := by
  obtain ⟨rest, heq⟩ := h.exists_summary_eq
  rw [heq, Verdict.startsWith_mark_append_iff]

end Coherent

/-! ## The bullets -/

/-- A line that tells a message. -/
def isBullet (line : String) : Bool := line.startsWith "   • "

theorem isBullet_bullet (text : String) : isBullet (bullet text) = true := by
  rw [isBullet, String.startsWith_string_iff, bullet, String.toList_append]
  exact List.prefix_append _ _

/-- A line is a bullet or not by its first five characters. -/
theorem isBullet_append {start : String} (hlong : 5 ≤ start.length) (rest : String) :
    isBullet (start ++ rest) = isBullet start := by
  rw [Bool.eq_iff_iff, isBullet, isBullet, String.startsWith_string_iff,
    String.startsWith_string_iff, String.toList_append]
  constructor
  · intro h
    exact List.prefix_of_prefix_length_le h (List.prefix_append _ _) hlong
  · intro h
    exact h.trans (List.prefix_append _ _)

theorem filter_isBullet_errorLines (i : Issue) :
    (errorLines i).filter isBullet = [bullet i.message] := by
  have hremedy : ∀ remedy : String, isBullet ("     💡 " ++ remedy) = false := by
    intro remedy
    rw [isBullet_append (by decide)]
    simp [isBullet]
  unfold errorLines
  rw [List.filter_cons_of_pos (isBullet_bullet _)]
  split
  · split <;> simp [hremedy]
  · rfl

theorem filter_isBullet_errorPart (r : Report) :
    r.errorPart.filter isBullet = r.errors.map bullet := by
  unfold errorPart errors messagesAt
  split
  · have hhead : isBullet ("❌ Date format " ++ quoted r.template.toList ++ " cannot be used:") =
        false := by
      rw [String.append_assoc, isBullet_append (by decide)]
      simp [isBullet]
    rw [List.filter_cons_of_neg (Bool.eq_false_iff.mp hhead), List.filter_flatMap]
    simp only [filter_isBullet_errorLines]
    rw [← List.map_eq_flatMap, List.map_map]
    rfl
  · rename_i hnone
    have herrors : r.issues.filter (·.level = .error) = [] := by
      simpa [hasErrors] using hnone
    rw [herrors]
    rfl

theorem filter_isBullet_warningPart (r : Report) :
    r.warningPart.filter isBullet = r.warnings.map bullet := by
  unfold warningPart
  split
  · rename_i hnone
    rw [List.isEmpty_iff.mp hnone]
    rfl
  · rw [List.filter_cons_of_neg (by simp [isBullet]), List.filter_eq_self]
    intro line hline
    obtain ⟨warning, _, rfl⟩ := List.mem_map.mp hline
    exact isBullet_bullet warning

/-- The bullets of the summary are the errors and after them the warnings. -/
theorem Coherent.filter_isBullet_summaryLines {r : Report} (h : r.Coherent) :
    r.summaryLines.filter isBullet = (r.errors ++ r.warnings).map bullet := by
  unfold summaryLines
  split
  · rename_i haccepted
    have hline : isBullet ("✅ Date format " ++ quoted r.template.toList ++ " is valid.") =
        false := by
      rw [String.append_assoc, isBullet_append (by decide)]
      simp [isBullet]
    have herrors : r.errors = [] := by
      rw [errors, messagesAt, List.map_eq_nil_iff, ← List.length_eq_zero_iff,
        ← List.countP_eq_length_filter]
      exact h.valid_iff.mp haccepted.1
    rw [List.filter_singleton, hline, herrors, List.isEmpty_iff.mp haccepted.2]
    rfl
  · have hgap : ∀ p : Prop, [Decidable p] → (if p then [] else [""]).filter isBullet = [] := by
      intro p _
      split
      · rfl
      · simp [isBullet]
    rw [List.filter_append, List.filter_append, hgap, List.append_nil, filter_isBullet_errorPart,
      filter_isBullet_warningPart, List.map_append]

end Report

/-! ## Refused templates -/

namespace Prompt

variable (template : String) (clock : Clock) (journal : Bool) (s : Session)

theorem openTemplate_unaudited : ((openTemplate template clock journal none).apply s).1 =
    openingAnswer template clock journal none := by
  rw [apply_openTemplate]
  rfl

/-- Without an audit a template is refused iff its report is not valid. -/
theorem openTemplate_refuses_iff :
    (∃ e, ((openTemplate template clock journal none).apply s).1 = .error (.format e)) ↔
      (Report.ofTemplate template).valid = false := by
  rw [openTemplate_unaudited]
  unfold openingAnswer
  cases husable : Format.ofUsable template with
  | ok f => simp [(Format.ofUsable_eq_ok_iff.mp husable).2]
  | error e =>
    have hinvalid : (Report.ofTemplate template).valid = false := by
      cases Format.refused_of_ofUsable husable with
      | malformed h => rw [Report.ofTemplate_of_error h]; rfl
      | unusable _ h => exact h
    simp [hinvalid]

end Prompt

/-- The verdict and the warnings of a report are those of its issues, of which at most one is an
error. The summary begins with a mark: for a valid report without warnings, for a template that is
refused, or for neither. Its bullets are the errors and after them the warnings, in the order of the
issues. -/
theorem summary_tells_report (template : String) (clock : Clock) (journal : Bool) (s : Session) :
    let r := Report.ofTemplate template
    let refused := ∃ e, ((Prompt.openTemplate template clock journal none).apply s).1 =
      .error (.format e)
    ((r.valid = true ↔ r.errorCount = 0) ∧ r.errorCount ≤ 1 ∧
      r.warnings = (r.issues.filter (·.level = .warning)).map (·.message)) ∧
    r.summary ≠ "" ∧
    (r.summary.startsWith "✅" = true ↔ r.valid = true ∧ r.warnings = []) ∧
    (r.summary.startsWith "❌" = true ↔ refused) ∧
    (r.summary.startsWith "⚠️" = true ↔ ¬ (r.valid = true ∧ r.warnings = []) ∧ ¬ refused) ∧
    r.summary = "\n".intercalate r.summaryLines ∧
    r.summaryLines.filter (·.startsWith "   • ") =
      (r.issues.filter (·.level = .error) ++ r.issues.filter (·.level = .warning)).map
        fun i => "   • " ++ i.message := by
  intro r refused
  have hr : r.Coherent := Report.coherent_ofTemplate template
  have haccepted := hr.startsWith_mark_iff .accepted
  have hrefused := hr.startsWith_mark_iff .refused
  have hdoubtful := hr.startsWith_mark_iff .doubtful
  rw [Report.Verdict.eq_doubtful_iff, Ne, Ne] at hdoubtful
  rw [Report.verdict_eq_accepted_iff] at haccepted hdoubtful
  rw [Report.verdict_eq_refused_iff, ← Prompt.openTemplate_refuses_iff] at hrefused hdoubtful
  refine ⟨⟨hr.valid_iff, hr.errorCount_le, hr.warnings_eq⟩, hr.summary_ne_empty, haccepted,
    hrefused, hdoubtful, rfl, ?_⟩
  have hbullets := hr.filter_isBullet_summaryLines
  rw [hr.warnings_eq, Report.errors, Report.messagesAt, Report.messagesAt, ← List.map_append,
    List.map_map] at hbullets
  exact hbullets

/-- Of a month alone nothing can be made, and this is told before what is missing. -/
example : (Report.ofTemplate "%m").summaryLines =
    ["❌ Date format '%m' cannot be used:",
      "   • No input accepted by this template can be completed to a date",
      "     💡 Include a %d field in the mandatory part of the template",
      "",
      "⚠️ Please check the following:",
      "   • Input ending after segment 0 supplies month, which cannot be completed to a date",
      "   • Template has no day field; printed dates will not read back unchanged",
      "   • Template has no year field; printed dates will not read back unchanged"] := by
  decide +kernel

end DatePrompt
