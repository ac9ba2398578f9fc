import DatePrompt.Proofs.Stops
import DatePrompt.Report.Basic

/-!
# What a report promises

A report looks at the stops of a format and at no entry. As the stops are the shapes of what can be
read, its verdict is exact: a template is found valid iff some entry means a date
(`report_verdict_exact`), the dead ends are the shapes of entries that mean none, and printed dates
are said to read back iff they do, whatever the reference (`round_trips_iff_prints_read_back`).
-/

namespace DatePrompt

/-! ## Dead ends -/

/-- The shapes among the stops that are not completable and were not reported, each once, in the
order in which they first occur. -/
structure IsDeadEnds (stops reported ends : List Shape) : Prop where
  sorted : ends.Pairwise fun s t => stops.idxOf s < stops.idxOf t
  mem_iff : ∀ s, s ∈ ends ↔ s ∈ stops ∧ s ∉ reported ∧ ¬ s.Completable

namespace IsDeadEnds

variable {a : Shape} {stops reported ends : List Shape}

theorem nil (reported : List Shape) : IsDeadEnds [] reported [] :=
  ⟨List.Pairwise.nil, by simp⟩

/-- What is found behind a stop occurs one place further on, if the stop is not found again. -/
theorem sorted_cons (h : IsDeadEnds stops reported ends) (ha : a ∉ ends) :
    ends.Pairwise fun s t => (a :: stops).idxOf s < (a :: stops).idxOf t := by
  refine h.sorted.imp_of_mem fun {s t} hs ht hlt => ?_
  have hsne : a ≠ s := fun heq => ha (heq ▸ hs)
  have htne : a ≠ t := fun heq => ha (heq ▸ ht)
  rw [List.idxOf_cons_ne stops hsne, List.idxOf_cons_ne stops htne]
  exact Nat.succ_lt_succ hlt

theorem map_deadEnd_cons (index : Nat) (ha : a ∉ ends) :
    ends.map (fun s => Finding.deadEnd (index + 1 + stops.idxOf s) s) =
      ends.map fun s => Finding.deadEnd (index + (a :: stops).idxOf s) s := by
  refine List.map_congr_left fun s hs => ?_
  have hne : a ≠ s := fun heq => ha (heq ▸ hs)
  rw [List.idxOf_cons_ne stops hne, Nat.succ_eq_add_one, Nat.add_right_comm, Nat.add_assoc]

theorem notMem_of_skipped (h : IsDeadEnds stops reported ends)
    (ha : a.Completable ∨ a ∈ reported) : a ∉ ends := by
  intro hmem
  obtain ⟨_, hunreported, hdead⟩ := (h.mem_iff a).mp hmem
  rcases ha with ha | ha
  · exact hdead ha
  · exact hunreported ha

theorem skip (h : IsDeadEnds stops reported ends) (ha : a.Completable ∨ a ∈ reported) :
    IsDeadEnds (a :: stops) reported ends := by
  refine ⟨h.sorted_cons (h.notMem_of_skipped ha), fun s => ?_⟩
  rw [h.mem_iff, List.mem_cons]
  constructor
  · rintro ⟨hs, hrest⟩
    exact ⟨.inr hs, hrest⟩
  · rintro ⟨rfl | hs, hunreported, hdead⟩
    · exact absurd ha (not_or.mpr ⟨hdead, hunreported⟩)
    · exact ⟨hs, hunreported, hdead⟩

theorem notMem_of_reported (h : IsDeadEnds stops (a :: reported) ends) : a ∉ ends :=
  fun hmem => ((h.mem_iff a).mp hmem).2.1 List.mem_cons_self

theorem add (h : IsDeadEnds stops (a :: reported) ends) (ha : ¬ (a.Completable ∨ a ∈ reported)) :
    IsDeadEnds (a :: stops) reported (a :: ends) := by
  obtain ⟨hdead, hunreported⟩ := not_or.mp ha
  refine ⟨List.pairwise_cons.mpr ⟨?_, h.sorted_cons h.notMem_of_reported⟩, fun s => ?_⟩
  · intro s hs
    have hne : a ≠ s := fun heq => h.notMem_of_reported (heq ▸ hs)
    rw [List.idxOf_cons_self, List.idxOf_cons_ne stops hne]
    exact Nat.succ_pos _
  · rw [List.mem_cons, h.mem_iff, List.mem_cons, List.mem_cons, not_or]
    constructor
    · rintro (rfl | ⟨hs, ⟨_, hs'⟩, hdead'⟩)
      · exact ⟨.inl rfl, hunreported, hdead⟩
      · exact ⟨.inr hs, hs', hdead'⟩
    · rintro ⟨rfl | hs, hs', hdead'⟩
      · exact .inl rfl
      · by_cases heq : s = a
        · exact .inl heq
        · exact .inr ⟨hs, ⟨heq, hs'⟩, hdead'⟩

end IsDeadEnds

theorem exists_deadEndsFrom_eq (index : Nat) (reported stops : List Shape) :
    ∃ ends, IsDeadEnds stops reported ends ∧ deadEndsFrom index reported stops =
      ends.map fun s => .deadEnd (index + stops.idxOf s) s := by
  induction stops generalizing index reported with
  | nil => exact ⟨[], .nil reported, rfl⟩
  | cons a stops ih =>
    unfold deadEndsFrom
    by_cases ha : a.Completable ∨ a ∈ reported
    · obtain ⟨ends, hends, heq⟩ := ih (index + 1) reported
      refine ⟨ends, hends.skip ha, ?_⟩
      rw [if_pos ha, heq, IsDeadEnds.map_deadEnd_cons index (hends.notMem_of_skipped ha)]
    · obtain ⟨ends, hends, heq⟩ := ih (index + 1) (a :: reported)
      refine ⟨a :: ends, hends.add ha, ?_⟩
      rw [if_neg ha, heq, IsDeadEnds.map_deadEnd_cons index hends.notMem_of_reported,
        List.map_cons, List.idxOf_cons_self, Nat.add_zero]

/-! ## The findings about a format -/

namespace Format

variable {f : Format}

/-- What is found after the dead ends. -/
def laterFindings (f : Format) : List Finding :=
  (if f.stops.any (·.Completable) then [] else [.unusable]) ++
    (Component.all.filter (! f.shape.has ·)).map .missing ++
    (if Field.shortYear ∈ f.fields then [.shortYear] else [])

theorem findings_eq (f : Format) :
    f.findings = deadEndsFrom 0 [] f.stops ++ f.laterFindings := by
  rw [findings, laterFindings, List.append_assoc, List.append_assoc, List.append_assoc]

theorem mem_laterFindings {x : Finding} (h : x ∈ f.laterFindings) :
    (x = .unusable ∧ ¬ ∃ s ∈ f.stops, s.Completable) ∨ (∃ c, x = .missing c) ∨ x = .shortYear := by
  unfold laterFindings at h
  rcases List.mem_append.mp h with h | h
  · rcases List.mem_append.mp h with h | h
    · split at h
      · cases h
      · rename_i hnone
        rw [List.any_eq_true] at hnone
        simp only [decide_eq_true_eq] at hnone
        exact .inl ⟨List.mem_singleton.mp h, hnone⟩
    · obtain ⟨c, _, rfl⟩ := List.mem_map.mp h
      exact .inr (.inl ⟨c, rfl⟩)
  · split at h
    · exact .inr (.inr (List.mem_singleton.mp h))
    · cases h

/-- The only error among the findings is that no stop can be completed. -/
theorem exists_error_iff :
    (∃ x ∈ f.findings, x.level = .error) ↔ ¬ ∃ s ∈ f.stops, s.Completable := by
  rw [findings_eq]
  constructor
  · rintro ⟨x, hx, hlevel⟩
    rcases List.mem_append.mp hx with hx | hx
    · obtain ⟨ends, _, heq⟩ := exists_deadEndsFrom_eq 0 [] f.stops
      rw [heq] at hx
      obtain ⟨s, _, rfl⟩ := List.mem_map.mp hx
      cases hlevel
    · rcases mem_laterFindings hx with ⟨_, hnone⟩ | ⟨c, rfl⟩ | rfl
      · exact hnone
      · cases hlevel
      · cases hlevel
  · intro hnone
    refine ⟨.unusable, List.mem_append_right _ ?_, rfl⟩
    have hany : f.stops.any (·.Completable) = false := by
      simpa using hnone
    simp [laterFindings, hany]

/-- The issues about dead ends are told first. -/
theorem exists_issues_eq (f : Format) :
    ∃ ends later, IsDeadEnds f.stops [] ends ∧
      f.findings.map Finding.issue =
        ends.map (fun s => (Finding.deadEnd (f.stops.idxOf s) s).issue) ++ later ∧
      ∀ i ∈ later, i.kind ≠ "unreachable_shape" := by
  obtain ⟨ends, hends, heq⟩ := exists_deadEndsFrom_eq 0 [] f.stops
  refine ⟨ends, f.laterFindings.map Finding.issue, hends, ?_, ?_⟩
  · rw [findings_eq, heq, List.map_append, List.map_map]
    simp only [Nat.zero_add]
    rfl
  · intro i hi
    obtain ⟨x, hx, rfl⟩ := List.mem_map.mp hi
    rcases mem_laterFindings hx with ⟨rfl, _⟩ | ⟨c, rfl⟩ | rfl <;>
      simp [Finding.issue, Finding.kind]

end Format

/-! ## The verdict -/

namespace Report

variable {template : String} {f : Format}

theorem ofTemplate_of_ok (h : Format.ofTemplate template = .ok f) :
    ofTemplate template = ofFormat template f := by
  rw [ofTemplate, h]

theorem ofTemplate_of_error {e : TemplateError} (h : Format.ofTemplate template = .error e) :
    ofTemplate template = ofError e := by
  rw [ofTemplate, h]

theorem valid_ofFormat : (ofFormat template f).valid = true ↔ ∃ s ∈ f.stops, s.Completable := by
  have herror : (f.findings.map Finding.issue).any (·.level = .error) = true ↔
      ∃ x ∈ f.findings, x.level = .error := by
    simp only [List.any_map, List.any_eq_true, Function.comp_apply, decide_eq_true_eq]
    exact Iff.rfl
  show (! (f.findings.map Finding.issue).any (·.level = .error)) = true ↔ _
  rw [Bool.not_eq_true', ← Bool.not_eq_true, herror, Format.exists_error_iff, not_not]

theorem roundTrips_ofFormat : (ofFormat template f).roundTrips = true ↔ f.shape = .full := by
  show ((ofFormat template f).valid && decide (f.shape = .full)) = true ↔ _
  rw [Bool.and_eq_true, decide_eq_true_eq, valid_ofFormat]
  refine and_iff_right_of_imp fun hfull => ⟨f.shape, f.shape_mem_stops, ?_⟩
  rw [hfull]
  decide

/-- The issues of the kind `unreachable_shape` are about dead ends, and are told first among the
warnings. -/
theorem exists_deadEnds (template : String) (f : Format) :
    ∃ ends, IsDeadEnds f.stops [] ends ∧
      (ofFormat template f).issues.filter (·.kind = "unreachable_shape") =
        ends.map (fun s => (Finding.deadEnd (f.stops.idxOf s) s).issue) ∧
      ends.map (fun s => (Finding.deadEnd (f.stops.idxOf s) s).message) <+:
        (ofFormat template f).warnings := by
  obtain ⟨ends, later, hends, hissues, hlater⟩ := f.exists_issues_eq
  have hissue : ∀ i ∈ ends.map (fun s => (Finding.deadEnd (f.stops.idxOf s) s).issue),
      i.kind = "unreachable_shape" ∧ i.level = .warning := by
    intro i hi
    obtain ⟨s, _, rfl⟩ := List.mem_map.mp hi
    exact ⟨rfl, rfl⟩
  refine ⟨ends, hends, ?_, ?_⟩
  · show (f.findings.map Finding.issue).filter _ = _
    rw [hissues, List.filter_append, List.filter_eq_self.mpr, List.filter_eq_nil_iff.mpr,
      List.append_nil]
    · simpa using hlater
    · intro i hi
      exact decide_eq_true (hissue i hi).1
  · show _ <+: messagesAt .warning (f.findings.map Finding.issue)
    rw [hissues, messagesAt, List.filter_append, List.filter_eq_self.mpr, List.map_append,
      List.map_map]
    · exact List.prefix_append _ _
    · intro i hi
      exact decide_eq_true (hissue i hi).2

end Report

/-- A template is valid iff some entry in it means a date, seen from some reference. The issues of
the kind `unreachable_shape` are about the shapes of entries that mean none, each shape once and
at the first segment that an entry of the shape ends with. Their messages are the first warnings,
and name the segment and the shape. -/
theorem report_verdict_exact (template : String) :
    (∀ f, Format.ofTemplate template = .ok f →
      ((Report.ofTemplate template).valid = true ↔
        ∃ text reference d, f.resolve text reference = .ok d) ∧
      ∃ ends : List Shape,
        (Report.ofTemplate template).issues.filter (·.kind = "unreachable_shape") =
          ends.map (fun s => (Finding.deadEnd (f.stops.idxOf s) s).issue) ∧
        ends.map (fun s => (Finding.deadEnd (f.stops.idxOf s) s).message) <+:
          (Report.ofTemplate template).warnings ∧
        (∀ s ∈ ends, (Finding.deadEnd (f.stops.idxOf s) s).message =
          "Input ending after segment " ++ toString (f.stops.idxOf s) ++ " supplies " ++
            (if s = .empty then "no fields"
              else " + ".intercalate (s.components.map Component.name)) ++
            ", which cannot be completed to a date") ∧
        (ends.Pairwise fun s t => f.stops.idxOf s < f.stops.idxOf t) ∧
        ∀ s, s ∈ ends ↔
          ¬ s.Completable ∧ ∃ text parts, f.read text = .ok parts ∧ parts.shape = s) ∧
    ((∀ f, Format.ofTemplate template ≠ .ok f) → (Report.ofTemplate template).valid = false) := by
  constructor
  · intro f h
    have hlit := (Format.ofTemplate_eq_ok_iff.mp h).1.literal_nil_notMem
    rw [Report.ofTemplate_of_ok h]
    refine ⟨Report.valid_ofFormat.trans (Format.exists_resolve_eq_ok_iff hlit).symm, ?_⟩
    obtain ⟨ends, hends, hissues, hwarnings⟩ := Report.exists_deadEnds template f
    refine ⟨ends, hissues, hwarnings, fun s _ => rfl, hends.sorted, fun s => ?_⟩
    rw [hends.mem_iff, Format.mem_stops_iff hlit]
    simp [and_comm]
  · intro h
    cases hread : Format.ofTemplate template with
    | ok f => exact absurd hread (h f)
    | error e =>
      rw [Report.ofTemplate_of_error hread]
      rfl

/-- An empty head, an empty group and a day without its month are all reached before an entry can
be completed; a bracket too many makes the template malformed. -/
theorem report_verdict_exact_nested :
    ∃ f, Format.ofTemplate "[[%y1%d[%m]]]" = .ok f ∧
      f.resolve "161502" .first = .ok ⟨2016, 2, 5, by decide⟩ ∧
      (Report.ofTemplate "[[%y1%d[%m]]]").valid = true ∧
      (∃ ends : List Shape,
        (Report.ofTemplate "[[%y1%d[%m]]]").issues.filter (·.kind = "unreachable_shape") =
          ends.map (fun s => (Finding.deadEnd (f.stops.idxOf s) s).issue) ∧
        .empty ∈ ends ∧ ⟨true, false, true⟩ ∈ ends ∧
        (Finding.deadEnd (f.stops.idxOf ⟨true, false, true⟩) ⟨true, false, true⟩).message =
          "Input ending after segment 2 supplies day + year, which cannot be completed to a date") ∧
      (Report.ofTemplate "[[%y1%d[%m]]]]").valid = false := by
  have hf : Format.ofTemplate "[[%y1%d[%m]]]" = .ok ⟨[], [[], [.field .shortYear, .literal ['1'],
    .field .day], [.field .month]]⟩ := rfl
  obtain ⟨hvalid, ends, hissues, -, htext, -, hmem⟩ :=
    (report_verdict_exact "[[%y1%d[%m]]]").1 _ hf
  have hempty := (hmem .empty).mpr ⟨by decide, "", .empty, rfl, rfl⟩
  have hdayYear := (hmem _).mpr ⟨by decide, "16105", ⟨some 5, none, some 2016⟩, rfl, rfl⟩
  refine ⟨_, hf, rfl, hvalid.mpr ⟨"161502", .first, _, rfl⟩,
    ⟨ends, hissues, hempty, hdayYear, (htext _ hdayYear).trans (by decide +kernel)⟩, ?_⟩
  refine (report_verdict_exact "[[%y1%d[%m]]]]").2 fun f h => ?_
  cases h

/-! ## Reading back -/

/-- A completable shape with the year is the full one. -/
theorem Shape.year_of_completable {s : Shape} (h : s.Completable) (hfull : s ≠ .full) :
    s.year = false := by
  obtain ⟨day, month, year⟩ := s
  obtain ⟨rfl, hmonth⟩ := Shape.completable_iff.mp h
  cases year with
  | false => rfl
  | true =>
    cases hmonth rfl
    exact absurd rfl hfull

namespace Format

variable {f : Format}

theorem resolve_print_of_full (hwf : f.WellFormed) (hfull : f.shape = .full)
    (d reference : Date) : f.resolve (f.print d) reference = .ok d := by
  have hread := read_print hwf d
  rw [hfull] at hread
  exact resolve_eq_ok_iff.mpr ⟨_, hread, DateParts.complete_partsIn_full d reference⟩

/-- Without a year the last day of the calendar, seen from the first, would mean a day that is not
after the first. -/
theorem shape_eq_full_of_resolve_print (hwf : f.WellFormed)
    (hself : f.resolve (f.print .last) .last = .ok .last)
    (hfirst : f.resolve (f.print .last) .first = .ok .last) : f.shape = .full := by
  by_contra hfull
  have hcompletable := (resolve_print_iff hwf .last).mp hself
  have hyear : f.shape.year = false := Shape.year_of_completable hcompletable hfull
  have hnone : (Date.last.partsIn f.shape).year = none := by simp [Date.partsIn, hyear]
  obtain ⟨parts, hparts, hcomplete⟩ := resolve_eq_ok_iff.mp hfirst
  rw [read_print hwf] at hparts
  cases hparts
  obtain ⟨_, _, hlatest⟩ := DateParts.complete_eq_ok_iff.mp hcomplete
  have hle : Date.last ≤ Date.first := (hlatest hnone).1
  exact absurd hle (by decide)

end Format

/-- Printed dates are said to read back iff the template is well formed and every date printed in
it means the date itself, whatever the reference. -/
theorem round_trips_iff_prints_read_back (template : String) :
    (Report.ofTemplate template).roundTrips = true ↔
      ∃ f, Format.ofTemplate template = .ok f ∧
        ∀ d reference : Date, f.resolve (f.print d) reference = .ok d := by
  constructor
  · intro h
    cases hread : Format.ofTemplate template with
    | error e =>
      rw [Report.ofTemplate_of_error hread] at h
      cases h
    | ok f =>
      rw [Report.ofTemplate_of_ok hread, Report.roundTrips_ofFormat] at h
      exact ⟨f, rfl, Format.resolve_print_of_full (Format.ofTemplate_eq_ok_iff.mp hread).1 h⟩
  · rintro ⟨f, hread, hback⟩
    rw [Report.ofTemplate_of_ok hread, Report.roundTrips_ofFormat]
    have hwf := (Format.ofTemplate_eq_ok_iff.mp hread).1
    exact Format.shape_eq_full_of_resolve_print hwf (hback .last .last) (hback .last .first)

end DatePrompt
