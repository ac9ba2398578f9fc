import DatePrompt.Proofs.Stops

/-!
# Why an entry means no date

Whatever is read off an entry is in range (`Format.inRange_of_read`), so completion never refuses a
value. An entry therefore means no date for one of four reasons: it cannot be cut along the format,
it stops where no date can be found, no date on or before the reference has its day and month, or
its day is beyond the end of its month.
-/

namespace DatePrompt

/-- The fields that fit give values in range. -/
theorem Cutting.inRange_of_get?_parts {c : Cutting} (hfits : ∀ p ∈ c, p.1.Fits p.2)
    {k : Component} {n : Int} (h : c.parts.get? k = some n) : k.InRange n := by
  induction c with
  | nil =>
    rw [parts, DateParts.get?_empty] at h
    cases h
  | cons p c ih =>
    obtain ⟨hp, hc⟩ := List.forall_mem_cons.mp hfits
    obtain ⟨a, piece⟩ := p
    cases a with
    | literal t => exact ih hc h
    | field f =>
      rw [parts, DateParts.get?_set] at h
      by_cases hk : f.component = k
      · rw [if_pos hk] at h
        cases h
        rw [← hk]
        exact hp.2.2
      · rw [if_neg hk] at h
        exact ih hc h

namespace Format

variable {f : Format} {text : String} {reference : Date}

theorem inRange_of_read {parts : DateParts} (h : f.read text = .ok parts) (c : Component) (n : Int)
    (hc : parts.get? c = some n) : c.InRange n := by
  obtain ⟨cutting, hhead, rfl⟩ := read_eq_ok_iff_head?.mp h
  have hcuts := mem_cuttings_iff.mp (List.mem_of_head? hhead)
  exact Cutting.inRange_of_get?_parts hcuts.fits hc

theorem resolve_of_read_error {e : ReadError} (h : f.read text = .error e) :
    f.resolve text reference = .error (.read e) := by
  rw [resolve, h]

/-- An entry that is read fails as its parts do. -/
theorem resolve_eq_error_iff_of_read {parts : DateParts} (h : f.read text = .ok parts)
    {e : EntryError} : f.resolve text reference = .error e ↔
      ∃ e', parts.complete reference = .error e' ∧ e = .date e' := by
  rw [resolve, h]
  cases hcomplete : parts.complete reference <;> simp [hcomplete, eq_comm]

end Format

/-- An entry is refused by the format iff there is no cutting of it. If it is read, its parts have
the shape of a stop and values in range, and the only errors are those of parts that cannot be
completed, of parts without a year that no date on or before the reference has, and of a full date
whose month is too short. -/
theorem entry_errors_exact (f : Format) (text : String) (reference : Date) :
    ((∃ e, f.resolve text reference = .error (.read e)) ↔ ¬ ∃ c, Cuts f text.toList c) ∧
    ∀ parts, f.read text = .ok parts →
      parts.shape ∈ f.stops ∧
      (∀ c n, parts.get? c = some n → c.InRange n) ∧
      ∀ e, f.resolve text reference = .error e ↔
        (e = .date (.incompletable parts.shape) ∧ ¬ parts.shape.Completable) ∨
        (e = .date (.noneBefore reference) ∧ parts.shape.Completable ∧ parts.year = none ∧
          ∀ d ≤ reference, ¬ d.Has parts) ∨
        ∃ year month day, e = .date (.invalid year month day) ∧
          parts = ⟨some day, some month, some year⟩ ∧ monthLength year month < day := by
  constructor
  · rw [← Format.exists_read_eq_ok_iff]
    cases hread : f.read text with
    | error e =>
      constructor
      · rintro _ ⟨parts, ⟨⟩⟩
      · intro _
        exact ⟨e, Format.resolve_of_read_error hread⟩
    | ok parts =>
      constructor
      · rintro ⟨e, he⟩
        obtain ⟨e', _, ⟨⟩⟩ := (Format.resolve_eq_error_iff_of_read hread).mp he
      · intro hnone
        exact absurd ⟨parts, rfl⟩ hnone
  · intro parts hread
    have hrange := Format.inRange_of_read hread
    refine ⟨Format.shape_mem_stops_of_read hread, hrange, fun e => ?_⟩
    simp only [Format.resolve_eq_error_iff_of_read hread, DateParts.complete_eq_error_iff hrange]
    constructor
    · rintro ⟨e', he, rfl⟩
      cases he with
      | incompletable hs => exact .inl ⟨rfl, hs⟩
      | noneBefore hs hyear hnone => exact .inr (.inl ⟨rfl, hs, hyear, hnone⟩)
      | invalid hparts hlong => exact .inr (.inr ⟨_, _, _, rfl, hparts, hlong⟩)
    · rintro (⟨rfl, hs⟩ | ⟨rfl, hs, hyear, hnone⟩ | ⟨year, month, day, rfl, hparts, hlong⟩)
      · exact ⟨_, .incompletable hs, rfl⟩
      · exact ⟨_, .noneBefore hs hyear hnone, rfl⟩
      · exact ⟨_, .invalid hparts hlong, rfl⟩

/-- The year 1900 had no 29 February, and neither had the years before the year 4. -/
theorem entry_errors_exact_leap_day :
    ∃ f, Format.ofTemplate "%d.%m.[%Y]" = .ok f ∧
      f.read "29.2.1900" = .ok ⟨some 29, some 2, some 1900⟩ ∧
      f.resolve "29.2.1900" .last = .error (.date (.invalid 1900 2 29)) ∧
      f.read "29.2." = .ok ⟨some 29, some 2, none⟩ ∧
      ∀ d : Date, d ≤ ⟨3, 12, 31, by decide⟩ → ¬ d.Has ⟨some 29, some 2, none⟩ := by
  have hf : Format.ofTemplate "%d.%m.[%Y]" = .ok ⟨[.field .day, .literal ['.'], .field .month,
      .literal ['.']], [[.field .longYear]]⟩ := rfl
  refine ⟨_, hf, rfl, ?_, rfl, ?_⟩
  · obtain ⟨-, hparts⟩ := entry_errors_exact ⟨[.field .day, .literal ['.'], .field .month,
      .literal ['.']], [[.field .longYear]]⟩ "29.2.1900" .last
    obtain ⟨-, -, herror⟩ := hparts _ rfl
    exact (herror _).mpr (.inr (.inr ⟨1900, 2, 29, rfl, rfl, by decide⟩))
  · obtain ⟨-, hparts⟩ := entry_errors_exact ⟨[.field .day, .literal ['.'], .field .month,
      .literal ['.']], [[.field .longYear]]⟩ "29.2." ⟨3, 12, 31, by decide⟩
    obtain ⟨-, -, herror⟩ := hparts _ rfl
    have hresolve : Format.resolve ⟨[.field .day, .literal ['.'], .field .month, .literal ['.']],
        [[.field .longYear]]⟩ "29.2." ⟨3, 12, 31, by decide⟩ =
        .error (.date (.noneBefore ⟨3, 12, 31, by decide⟩)) := rfl
    rcases (herror _).mp hresolve with ⟨h, -⟩ | ⟨-, -, -, hnone⟩ | ⟨_, _, _, h, -⟩
    · cases h
    · exact hnone
    · cases h

end DatePrompt
