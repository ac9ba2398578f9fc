import DatePrompt.Proofs.Separation

/-!
# Entries with a valid reading

The cutting of an entry is chosen before anything is known about the calendar: the fields only keep
values out of range away. An entry that means a date in some cutting therefore means one just when
its preferred cutting does (`valid_reading_found_iff`). In a separated format these are the same
cutting. Where fields touch, the preferred cutting may ask for 30 February while another one asks
for 3 February, and the entry is refused (`valid_reading_lost`).
-/

namespace DatePrompt

namespace Format

/-- An entry means what the parts of its preferred cutting complete to. -/
theorem resolve_eq_ok_iff_of_isPreferred {f : Format} (hlit : .literal [] ∉ f.segments.flatten)
    {text : String} {b : Cutting} (hb : f.IsPreferred text.toList b) {reference d : Date} :
    f.resolve text reference = .ok d ↔ b.parts.complete reference = .ok d := by
  have hread : f.read text = .ok b.parts := (read_eq_ok_iff hlit).mpr ⟨b, hb, rfl⟩
  rw [resolve_eq_ok_iff, hread]
  constructor
  · rintro ⟨_, ⟨⟩, h⟩
    exact h
  · intro h
    exact ⟨_, rfl, h⟩

theorem exists_isPreferred {f : Format} (hlit : .literal [] ∉ f.segments.flatten) {text : String}
    {c : Cutting} (hc : Cuts f text.toList c) : ∃ b, f.IsPreferred text.toList b := by
  obtain ⟨_, hread⟩ := exists_read_eq_ok_iff.mpr ⟨c, hc⟩
  obtain ⟨b, hb, _⟩ := (read_eq_ok_iff hlit).mp hread
  exact ⟨b, hb⟩

end Format

/-- An entry that means a date in one of its cuttings means one iff its preferred cutting does: iff
the parts of that have a shape from which a date can be found, and a date has them, on or before
the reference unless the year is given. In a separated format the entry means the date of its only
cutting. -/
theorem valid_reading_found_iff {template : String} {f : Format}
    (h : Format.ofTemplate template = .ok f) {text : String} {reference d : Date} {c : Cutting}
    (hc : Cuts f text.toList c) (hd : c.parts.complete reference = .ok d) :
    (∃ b, f.IsPreferred text.toList b ∧
      ((∃ e, f.resolve text reference = .ok e) ↔ b.parts.shape.Completable ∧
        ∃ e : Date, e.Has b.parts ∧ (b.parts.year = none → e ≤ reference))) ∧
    (f.Separated → f.resolve text reference = .ok d) := by
  have hlit := (Format.ofTemplate_eq_ok_iff.mp h).1.literal_nil_notMem
  obtain ⟨b, hb⟩ := Format.exists_isPreferred hlit hc
  have hresolve : ∀ e, f.resolve text reference = .ok e ↔ b.parts.complete reference = .ok e :=
    fun e => Format.resolve_eq_ok_iff_of_isPreferred hlit hb
  refine ⟨⟨b, hb, ?_⟩, ?_⟩
  · simp only [hresolve, DateParts.exists_complete_eq_ok_iff]
  · intro hsep
    cases Cutting.eq_of_separated hsep hlit hb.cuts hc
    exact (hresolve d).mpr hd

/-- The first of December is also the eleventh of February, which is preferred. With separators it
is not. -/
theorem valid_reading_found_iff_december :
    (∃ f c b, Format.ofTemplate "%d%m%Y" = .ok f ∧ Cuts f "1122015".toList c ∧
      c.parts.complete .last = .ok ⟨2015, 12, 1, by decide⟩ ∧
      f.IsPreferred "1122015".toList b ∧ b.parts.shape.Completable ∧
      ∃ e : Date, e.Has b.parts) ∧
    ∃ f, Format.ofTemplate "%d.%m.%Y" = .ok f ∧ f.Separated ∧
      f.resolve "1.12.2015" .last = .ok ⟨2015, 12, 1, by decide⟩ := by
  constructor
  · have hf : Format.ofTemplate "%d%m%Y" =
        .ok ⟨[.field .day, .field .month, .field .longYear], []⟩ := rfl
    have hc : Cuts ⟨[.field .day, .field .month, .field .longYear], []⟩ "1122015".toList
        [(.field .day, ['1']), (.field .month, ['1', '2']),
          (.field .longYear, ['2', '0', '1', '5'])] := ⟨⟨0, rfl⟩, rfl, by decide⟩
    have hd : DateParts.complete ⟨some 1, some 12, some 2015⟩ .last =
        .ok ⟨2015, 12, 1, by decide⟩ := rfl
    have hresolve : Format.resolve ⟨[.field .day, .field .month, .field .longYear], []⟩ "1122015"
        .last = .ok ⟨2015, 2, 11, by decide⟩ := rfl
    obtain ⟨⟨b, hb, hfound⟩, -⟩ := valid_reading_found_iff hf hc hd
    obtain ⟨hshape, e, he, -⟩ := hfound.mp ⟨_, hresolve⟩
    exact ⟨_, _, b, hf, hc, hd, hb, hshape, e, he⟩
  · have hf : Format.ofTemplate "%d.%m.%Y" =
        .ok ⟨[.field .day, .literal ['.'], .field .month, .literal ['.'], .field .longYear], []⟩ :=
      rfl
    have hc : Cuts ⟨[.field .day, .literal ['.'], .field .month, .literal ['.'],
        .field .longYear], []⟩ "1.12.2015".toList
        [(.field .day, ['1']), (.literal ['.'], ['.']), (.field .month, ['1', '2']),
          (.literal ['.'], ['.']), (.field .longYear, ['2', '0', '1', '5'])] :=
      ⟨⟨0, rfl⟩, rfl, by decide⟩
    have hsep : Format.Separated ⟨[.field .day, .literal ['.'], .field .month, .literal ['.'],
        .field .longYear], []⟩ := by decide
    exact ⟨_, hf, hsep, (valid_reading_found_iff hf hc rfl).2 hsep⟩

/-- The third of February, whose day and month together are also 30 and 2. -/
theorem valid_reading_lost :
    ∃ f c, Format.ofTemplate "%d%m%Y" = .ok f ∧ Cuts f "3022015".toList c ∧
      c.parts.complete ⟨2016, 6, 15, by decide⟩ = .ok ⟨2015, 2, 3, by decide⟩ ∧
      f.resolve "3022015" ⟨2016, 6, 15, by decide⟩ = .error (.date (.invalid 2015 2 30)) := by
  refine ⟨⟨[.field .day, .field .month, .field .longYear], []⟩, [(.field .day, ['3']),
    (.field .month, ['0', '2']), (.field .longYear, ['2', '0', '1', '5'])], rfl, ?_, rfl, rfl⟩
  exact ⟨⟨0, rfl⟩, rfl, by decide⟩

end DatePrompt
