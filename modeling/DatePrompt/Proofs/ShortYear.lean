import DatePrompt.Proofs.Printing

/-!
# Short years

A short year is printed with four digits when two would not read back. With four digits the text is
longer, so the text of a date shows which way its year was printed (`Format.widensYear_iff`). Two
digits read back just for the years 2000 to 2099 of a format that also has the day and the month:
the text is cut as it was printed, so the parts that are read name another year if they are not
those of the date, and nothing but the whole date can be completed (`short_year_rule`).
-/

namespace DatePrompt

/-- Only a short year has two ways of being printed. -/
theorem Atom.printed_true_of_ne {a : Atom} (h : a ≠ .field .shortYear) (d : Date) :
    a.printed true d = a.printed false d := by
  cases a with
  | literal t => rfl
  | field g =>
    cases g with
    | day | month | longYear => rfl
    | shortYear => exact absurd rfl h

namespace Format

variable {f : Format} {d : Date}

/-! ## Years printed in full -/

/-- The format has a short year, and in the text of the date four digits stand for it. -/
def WidensYear (f : Format) (d : Date) : Prop :=
  ∃ short piece, f.print d = f.write d short ∧ (.field .shortYear, piece) ∈ f.printed d short ∧
    piece.length = 4

theorem print_of_mem (h : .shortYear ∈ f.fields) :
    f.print d = f.write d (f.shortYearReadsBack d) := if_pos h

/-- Up to the year both ways of printing are the same, and a short year prefers two digits. -/
theorem map_printed_before {atoms : List Atom} (h : .field .shortYear ∈ atoms) (d : Date) :
    Cutting.Before (atoms.map fun a => (a, a.printed true d))
      (atoms.map fun a => (a, a.printed false d)) := by
  induction atoms with
  | nil => cases h
  | cons a atoms ih =>
    rw [List.map_cons, List.map_cons]
    by_cases ha : a = .field .shortYear
    · -- the first short year is where the two part, whatever comes after it
      subst ha
      refine .field ?_
      show Field.shortYear.rank (Field.digits true d .shortYear).length <
        Field.shortYear.rank (Field.digits false d .shortYear).length
      rw [Field.length_digits, Field.length_digits]
      decide
    · rw [Atom.printed_true_of_ne ha]
      exact .cons (ih (List.mem_of_ne_of_mem (Ne.symm ha) h))

theorem write_true_ne_write_false (h : .shortYear ∈ f.fields) (d : Date) :
    f.write d true ≠ f.write d false := by
  intro heq
  have hbefore : (f.printed d true).Before (f.printed d false) :=
    map_printed_before (mem_fields_iff.mp h) d
  have hlt := hbefore.text_length_lt_of_widest widest_printed cuts_printed.fits
    (atoms_prefix_printed cuts_printed)
  rw [cuts_printed.text, cuts_printed.text, heq] at hlt
  exact Nat.lt_irrefl _ hlt

/-- The year is printed in full just when a short one would not read back. -/
theorem widensYear_iff :
    f.WidensYear d ↔ .shortYear ∈ f.fields ∧ f.shortYearReadsBack d = false := by
  constructor
  · rintro ⟨short, piece, hprint, hmem, hlength⟩
    obtain ⟨hfield, rfl⟩ := mem_printed.mp hmem
    have hyear : .shortYear ∈ f.fields := mem_fields_iff.mpr hfield
    refine ⟨hyear, ?_⟩
    -- two digits are not four, so the year was not printed short
    have hshort : short = false := by
      cases short with
      | false => rfl
      | true => cases hlength
    subst hshort
    rw [print_of_mem hyear] at hprint
    by_contra hback
    rw [Bool.not_eq_false] at hback
    rw [hback] at hprint
    exact write_true_ne_write_false hyear d hprint
  · rintro ⟨hyear, hback⟩
    refine ⟨false, _, ?_, mem_printed.mpr ⟨mem_fields_iff.mp hyear, rfl⟩,
      Field.length_digits false d .shortYear⟩
    rw [print_of_mem hyear, hback]

/-! ## Years printed short -/

/-- A component other than the year has one field only. -/
theorem mem_fields_iff_has {g : Field} (hg : g.component ≠ .year) :
    g ∈ f.fields ↔ f.shape.has g.component = true := by
  rw [has_shape]
  constructor
  · intro h
    exact ⟨g, h, rfl⟩
  · rintro ⟨g', h, hcomponent⟩
    have heq : g' = g := by cases g <;> cases g' <;> simp_all [Field.component]
    exact heq ▸ h

/-- With a year nothing but the whole date can be completed. -/
theorem completable_iff_of_shortYear (hyear : .shortYear ∈ f.fields) :
    f.shape.Completable ↔ .day ∈ f.fields ∧ .month ∈ f.fields := by
  have hhas : f.shape.year = true := has_shape (c := .year).mpr ⟨_, hyear, rfl⟩
  rw [Shape.completable_iff, mem_fields_iff_has (by decide), mem_fields_iff_has (by decide)]
  exact and_congr_right fun _ => forall_prop_of_true hhas

/-- Two digits read back just where they stand for the year of the date and the parts that the
format asks for can be completed. -/
theorem shortYearReadsBack_iff (hwf : f.WellFormed) (hyear : .shortYear ∈ f.fields) :
    f.shortYearReadsBack d = true ↔ f.shape.Completable ∧ 2000 + d.year % 100 = d.year := by
  constructor
  · intro h
    have hcentury := year_of_shortYearReadsBack hwf hyear h
    refine ⟨(resolve_print_iff hwf d).mp ?_, hcentury⟩
    rw [print_of_mem hyear, h]
    obtain ⟨parts, hread, hcomplete⟩ := readsBack_iff.mp h
    exact resolve_eq_ok_iff.mpr ⟨parts, hread, hcomplete⟩
  · rintro ⟨hs, hcentury⟩
    have hread : f.read (f.write d true) = .ok (d.partsIn f.shape) := by
      refine read_write hwf.literal_nil_notMem fun g _ => ?_
      cases g with
      | day | month | longYear => rfl
      | shortYear => exact hcentury
    exact readsBack_iff.mpr ⟨_, hread, DateParts.complete_partsIn d hs⟩

/-- Without a short year there is nothing to print short. -/
theorem shortYearReadsBack_iff_of_notMem (hwf : f.WellFormed) (hyear : .shortYear ∉ f.fields) :
    f.shortYearReadsBack d = true ↔ f.shape.Completable := by
  have hread : f.read (f.write d true) = .ok (d.partsIn f.shape) := by
    refine read_write hwf.literal_nil_notMem fun g hg => ?_
    cases g with
    | day | month | longYear => rfl
    | shortYear => exact absurd hg hyear
  rw [shortYearReadsBack, readsBack_iff, hread]
  constructor
  · rintro ⟨_, ⟨⟩, hcomplete⟩
    rw [← d.shape_partsIn f.shape]
    exact (DateParts.complete_eq_ok_iff.mp hcomplete).1
  · intro hs
    exact ⟨_, rfl, DateParts.complete_partsIn d hs⟩

/-- In the text of the date the digits stand for its short year, between what the atoms before it
and the atoms after it print. -/
def ShowsYear (f : Format) (d : Date) (digits : List Char) : Prop :=
  ∃ before after, f.segments.flatten = before ++ .field .shortYear :: after ∧
    (f.print d).toList =
      before.flatMap (Atom.printed false d) ++ digits ++ after.flatMap (Atom.printed false d)

theorem flatMap_printed_of_notMem {atoms : List Atom} (h : .field .shortYear ∉ atoms)
    (short : Bool) (d : Date) :
    atoms.flatMap (Atom.printed short d) = atoms.flatMap (Atom.printed false d) := by
  cases short with
  | false => rfl
  | true => exact List.flatMap_congr fun a ha => a.printed_true_of_ne (fun heq => h (heq ▸ ha)) d

/-- No other atom of the format prints a year. -/
theorem notMem_around_shortYear (hwf : f.WellFormed) {before after : List Atom}
    (h : f.segments.flatten = before ++ .field .shortYear :: after) :
    .field .shortYear ∉ before ∧ .field .shortYear ∉ after := by
  have hnodup :
      (Segment.components before ++ Component.year :: Segment.components after).Nodup := by
    have hcomponents := f.components_flatten
    rw [h, Segment.components, Segment.fields_append, List.map_append] at hcomponents
    exact hcomponents ▸ hwf.2
  have hyear := (List.nodup_cons.mp (List.nodup_middle.mp hnodup)).1
  have hfield : ∀ atoms : List Atom, .field .shortYear ∈ atoms → .year ∈ Segment.components atoms :=
    fun atoms hmem => List.mem_map.mpr ⟨.shortYear, List.mem_filterMap.mpr ⟨_, hmem, rfl⟩, rfl⟩
  exact ⟨fun hmem => hyear (List.mem_append_left _ (hfield before hmem)),
    fun hmem => hyear (List.mem_append_right _ (hfield after hmem))⟩

theorem showsYear_iff (hwf : f.WellFormed) (hyear : .shortYear ∈ f.fields) {digits : List Char} :
    f.ShowsYear d digits ↔ digits = Field.digits (f.shortYearReadsBack d) d .shortYear := by
  have hprint : ∀ before after, f.segments.flatten = before ++ .field .shortYear :: after →
      (f.print d).toList = before.flatMap (Atom.printed false d) ++
        Field.digits (f.shortYearReadsBack d) d .shortYear ++
        after.flatMap (Atom.printed false d) := by
    intro before after hsplit
    obtain ⟨hbefore, hafter⟩ := notMem_around_shortYear hwf hsplit
    rw [print_of_mem hyear, write, String.toList_ofList, hsplit, List.flatMap_append,
      List.flatMap_cons, flatMap_printed_of_notMem hbefore, flatMap_printed_of_notMem hafter,
      ← List.append_assoc]
    rfl
  constructor
  · rintro ⟨before, after, hsplit, hdigits⟩
    rw [hprint before after hsplit] at hdigits
    exact (List.append_cancel_left (List.append_cancel_right hdigits)).symm
  · rintro rfl
    obtain ⟨before, after, hsplit⟩ := List.append_of_mem (mem_fields_iff.mp hyear)
    exact ⟨before, after, hsplit, hprint before after hsplit⟩

end Format

/-- A short year is printed with its last two digits if the format also has the day and the month
and the year is one of 2000 to 2099, for then these read back, and with all four digits if not.
Without a short year there is only one way of printing, which reads back iff the parts can be
completed. -/
theorem short_year_rule {template : String} {f : Format}
    (h : Format.ofTemplate template = .ok f) (d : Date) :
    (.shortYear ∈ f.fields →
      (f.shortYearReadsBack d = true ↔
        (.day ∈ f.fields ∧ .month ∈ f.fields) ∧ 2000 ≤ d.year ∧ d.year ≤ 2099) ∧
      ∀ digits, f.ShowsYear d digits ↔ digits =
        if f.shortYearReadsBack d then fixedWidth 2 (d.year % 100).toNat
        else fixedWidth 4 d.year.toNat) ∧
    (.shortYear ∉ f.fields → (f.shortYearReadsBack d = true ↔ f.shape.Completable)) := by
  have hwf := (Format.ofTemplate_eq_ok_iff.mp h).1
  refine ⟨fun hyear => ⟨?_, fun digits => ?_⟩, Format.shortYearReadsBack_iff_of_notMem hwf⟩
  · rw [Format.shortYearReadsBack_iff hwf hyear, Format.completable_iff_of_shortYear hyear]
    exact and_congr_right fun _ => by omega
  · have hlow : fixedWidth 2 (d.year % 100).toNat = fixedWidth 2 d.year.toNat := by
      have hpositive := d.year_bounds.1
      rw [← fixedWidth_mod 2 d.year.toNat, show Nat.pow 10 2 = 100 from rfl]
      exact congrArg _ (by omega)
    rw [Format.showsYear_iff hwf hyear, hlow]
    rfl

/-- A short year that is the first of the fields, printed short in 2016 and in full in 1916. -/
theorem short_year_rule_compact :
    (∃ f, Format.ofTemplate "%y%m[%d1]" = .ok f ∧
      (.shortYear ∈ f.fields ∧ .day ∈ f.fields ∧ .month ∈ f.fields) ∧
      f.shortYearReadsBack ⟨2016, 2, 29, by decide⟩ = true ∧
      f.ShowsYear ⟨2016, 2, 29, by decide⟩ ['1', '6'] ∧
      f.ShowsYear ⟨1916, 2, 29, by decide⟩ ['1', '9', '1', '6']) ∧
    ∃ f, Format.ofTemplate "%d[.%m]" = .ok f ∧ .shortYear ∉ f.fields ∧
      f.shortYearReadsBack ⟨1916, 2, 29, by decide⟩ = true := by
  constructor
  · have hf : Format.ofTemplate "%y%m[%d1]" =
        .ok ⟨[.field .shortYear, .field .month], [[.field .day, .literal ['1']]]⟩ := rfl
    obtain ⟨hin, -⟩ := short_year_rule hf ⟨2016, 2, 29, by decide⟩
    obtain ⟨hout, -⟩ := short_year_rule hf ⟨1916, 2, 29, by decide⟩
    obtain ⟨hback, hshort⟩ := hin (by decide)
    obtain ⟨hnot, hfull⟩ := hout (by decide)
    have hreads := hback.mpr (by decide)
    refine ⟨_, hf, by decide, hreads, (hshort _).mpr ?_, (hfull _).mpr ?_⟩
    · rw [hreads]
      rfl
    · rw [Bool.eq_false_iff.mpr fun h => absurd (hnot.mp h) (by decide)]
      rfl
  · have hf : Format.ofTemplate "%d[.%m]" =
        .ok ⟨[.field .day], [[.literal ['.'], .field .month]]⟩ := rfl
    obtain ⟨-, hcompletable⟩ := short_year_rule hf ⟨1916, 2, 29, by decide⟩
    exact ⟨_, hf, by decide, (hcompletable (by decide)).mpr (by decide)⟩

end DatePrompt
