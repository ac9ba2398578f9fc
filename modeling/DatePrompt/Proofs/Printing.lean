import DatePrompt.Entry.Printing
import DatePrompt.Proofs.Completion
import DatePrompt.Proofs.Preference
import DatePrompt.Proofs.TemplateReading
import Mathlib.Data.List.Nodup

/-!
# Reading what was printed

A printed date is cut as it was printed (`Format.printed`), whatever the layout of the format. With
a short year every field has the width that it prefers, so that no cutting comes before. With all
fields at their full width a cutting that came before would have a narrower field somewhere, and
nothing after that could make up for the text that it leaves.
-/

namespace DatePrompt

/-! ## The digits of a date -/

/-- The components of a date whose year is read in the century of the base. -/
def Date.shortComponent (d : Date) : Component → Int
  | .year => 2000 + d.year % 100
  | c => d.component c

namespace Field

/-- The value that a printed field has. -/
def printedValue (short : Bool) (d : Date) : Field → Int
  | shortYear => if short then d.shortComponent .year else d.year
  | f => d.component f.component

theorem value_fixedWidth_toNat {w : Nat} {n : Int} (hn : 0 ≤ n) (hlt : n < Nat.pow 10 w) :
    (decimalValue (fixedWidth w n.toNat) : Int) = n := by
  have hbound : n.toNat < Nat.pow 10 w := by omega
  rw [value_fixedWidth_of_lt hbound]
  exact Int.toNat_of_nonneg hn

theorem value_digits (short : Bool) (d : Date) (f : Field) :
    (f.value (f.digits short d) : Int) = f.printedValue short d := by
  have hy := d.year_bounds
  have hm := d.month_bounds
  have hd := d.day_bounds
  have hyear : d.year < 10000 := by omega
  cases f with
  | day =>
    have hday : d.day < 100 := by omega
    rw [value_of_ne (by decide), digits]
    exact value_fixedWidth_toNat (by omega) hday
  | month =>
    have hmonth : d.month < 100 := by omega
    rw [value_of_ne (by decide), digits]
    exact value_fixedWidth_toNat (by omega) hmonth
  | shortYear =>
    cases short with
    | true =>
      have hlen := length_fixedWidth 2 d.year.toNat
      show (shortYear.value (fixedWidth 2 d.year.toNat) : Int) = 2000 + d.year % 100
      rw [value_short (by omega), value_fixedWidth, show Nat.pow 10 2 = 100 from rfl]
      omega
    | false =>
      have hlen := length_fixedWidth 4 d.year.toNat
      show (shortYear.value (fixedWidth 4 d.year.toNat) : Int) = d.year
      rw [value_of_wide _ (by omega)]
      exact value_fixedWidth_toNat (by omega) hyear
  | longYear =>
    rw [value_of_ne (by decide), digits]
    exact value_fixedWidth_toNat (by omega) hyear

theorem printedValue_false (d : Date) (f : Field) :
    f.printedValue false d = d.component f.component := by
  cases f <;> rfl

theorem inRange_printedValue (short : Bool) (d : Date) (f : Field) :
    f.component.InRange (f.printedValue short d) := by
  have hy := d.year_bounds
  cases f with
  | day => exact d.day_bounds
  | month => exact d.month_bounds
  | shortYear =>
    cases short with
    | true =>
      change 1 ≤ 2000 + d.year % 100 ∧ 2000 + d.year % 100 ≤ 9999
      omega
    | false => exact hy
  | longYear => exact hy

/-- The number of digits that a date has in a field. -/
theorem length_digits (short : Bool) (d : Date) (f : Field) :
    (f.digits short d).length = if f = .shortYear ∧ short then 2 else f.maxWidth := by
  cases f <;> cases short <;> exact length_fixedWidth _ _

theorem all_isDigit_digits (short : Bool) (d : Date) (f : Field) :
    (f.digits short d).all Char.isDigit = true := by
  cases f <;> cases short <;> exact all_isDigit_fixedWidth _ _

theorem fits_digits (short : Bool) (d : Date) (f : Field) :
    (Atom.field f).Fits (f.digits short d) := by
  refine ⟨?_, all_isDigit_digits short d f, ?_⟩
  · rw [length_digits]
    cases f <;> cases short <;> decide
  · rw [value_digits]
    exact inRange_printedValue short d f

end Field

theorem Atom.fits_printed (short : Bool) (d : Date) (a : Atom) : a.Fits (a.printed short d) := by
  cases a with
  | literal t => exact rfl
  | field f => exact f.fits_digits short d

/-! ## No cutting comes before -/

namespace Cutting

/-- Whether no atom could cover more than it does. -/
def Widest (c : Cutting) : Prop := ∀ p ∈ c, ∀ piece, p.1.Fits piece → piece.length ≤ p.2.length

theorem text_length_le_of_widest {c e : Cutting} (hc : c.Widest) (he : ∀ p ∈ e, p.1.Fits p.2)
    (hatoms : e.atoms <+: c.atoms) : e.text.length ≤ c.text.length := by
  induction e generalizing c with
  | nil => exact Nat.zero_le _
  | cons p e ih =>
    cases c with
    | nil => cases List.prefix_nil.mp hatoms
    | cons q c =>
      obtain ⟨hatom, hrest⟩ := List.cons_prefix_cons.mp hatoms
      change p.1 = q.1 at hatom
      obtain ⟨hp, he⟩ := List.forall_mem_cons.mp he
      obtain ⟨hq, hc⟩ := List.forall_mem_cons.mp hc
      have hpiece := hq p.2 (hatom ▸ hp)
      have htail := ih hc he hrest
      rw [text_cons, text_cons, List.length_append, List.length_append]
      omega

/-- A cutting that comes before the widest one leaves some of the text. -/
theorem Before.text_length_lt_of_widest {c e : Cutting} (h : e.Before c) (hc : c.Widest)
    (he : ∀ p ∈ e, p.1.Fits p.2) (hatoms : e.atoms <+: c.atoms) :
    e.text.length < c.text.length := by
  induction h with
  | @field f piece piece' e c hrank =>
    obtain ⟨_, hrest⟩ := List.cons_prefix_cons.mp hatoms
    obtain ⟨hp, he⟩ := List.forall_mem_cons.mp he
    obtain ⟨hq, hc⟩ := List.forall_mem_cons.mp hc
    have hpiece := hq piece hp
    have hne : piece.length ≠ piece'.length := fun heq => by
      rw [heq] at hrank
      exact Nat.lt_irrefl _ hrank
    have htail := text_length_le_of_widest hc he hrest
    simp only [text_cons, List.length_append] at hpiece ⊢
    omega
  | @cons p e c h ih =>
    obtain ⟨_, hrest⟩ := List.cons_prefix_cons.mp hatoms
    have htail := ih (List.forall_mem_cons.mp hc).2 (List.forall_mem_cons.mp he).2 hrest
    rw [text_cons, text_cons, List.length_append, List.length_append]
    omega

/-- Nothing comes before a cutting whose fields all have the width that they prefer. -/
theorem not_before_of_rank_eq_zero {c : Cutting}
    (hc : ∀ f piece, (.field f, piece) ∈ c → f.rank piece.length = 0) (e : Cutting) :
    ¬ e.Before c := by
  intro h
  induction h with
  | field h =>
    rw [hc _ _ List.mem_cons_self] at h
    exact Nat.not_lt_zero _ h
  | cons _ ih => exact ih fun f piece hp => hc f piece (List.mem_cons_of_mem _ hp)

end Cutting

/-! ## The printed cutting -/

namespace Format

/-- A date in all segments of a format, cut as it is printed. -/
def printed (f : Format) (d : Date) (short : Bool) : Cutting :=
  f.segments.flatten.map fun a => (a, a.printed short d)

variable {f : Format} {d : Date} {short : Bool}

theorem mem_printed {a : Atom} {piece : List Char} :
    (a, piece) ∈ f.printed d short ↔ a ∈ f.segments.flatten ∧ a.printed short d = piece := by
  simp only [printed, List.mem_map, Prod.mk.injEq]
  constructor
  · rintro ⟨_, ha, rfl, h⟩
    exact ⟨ha, h⟩
  · rintro ⟨ha, h⟩
    exact ⟨a, ha, rfl, h⟩

theorem atoms_printed : (f.printed d short).atoms = f.segments.flatten := by
  rw [printed, Cutting.atoms, List.map_map]
  exact List.map_id _

theorem cuts_printed : Cuts f (f.write d short).toList (f.printed d short) where
  atoms := ⟨f.groups.length, by rw [atoms_printed, List.take_length]; rfl⟩
  text := by
    rw [write, String.toList_ofList, printed, Cutting.text, List.flatMap_map]
  fits := by
    rintro ⟨a, piece⟩ hp
    obtain ⟨_, rfl⟩ := mem_printed.mp hp
    exact a.fits_printed short d

theorem atoms_prefix_printed {text : List Char} {e : Cutting} (h : Cuts f text e) :
    e.atoms <+: (f.printed d short).atoms := by
  obtain ⟨k, hk⟩ := h.atoms
  refine ⟨(f.groups.drop k).flatten, ?_⟩
  rw [hk, atoms_printed, segments, List.flatten_cons, List.flatten_cons, List.append_assoc,
    ← List.flatten_append, List.take_append_drop]

theorem widest_printed : (f.printed d false).Widest := by
  rintro ⟨a, piece'⟩ hp piece hfits
  obtain ⟨_, rfl⟩ := mem_printed.mp hp
  cases a with
  | literal t => exact Nat.le_of_eq (congrArg List.length hfits)
  | field g =>
    have hlen := g.length_digits false d
    rw [if_neg (fun h => Bool.noConfusion h.2)] at hlen
    exact Nat.le_trans hfits.1.2 (Nat.le_of_eq hlen.symm)

theorem rank_printed_true {g : Field} {piece : List Char}
    (hp : (.field g, piece) ∈ f.printed d true) : g.rank piece.length = 0 := by
  obtain ⟨_, rfl⟩ := mem_printed.mp hp
  change g.rank (g.digits true d).length = 0
  rw [Field.length_digits]
  cases g <;> decide

/-- The printed cutting is the one that the printed text is read by. -/
theorem isPreferred_printed (hlit : .literal [] ∉ f.segments.flatten) (d : Date) (short : Bool) :
    f.IsPreferred (f.write d short).toList (f.printed d short) := by
  refine isPreferred_of_not_before hlit cuts_printed fun e he h => ?_
  cases short with
  | true => exact Cutting.not_before_of_rank_eq_zero (fun _ _ => rank_printed_true) e h
  | false =>
    have hlt := h.text_length_lt_of_widest widest_printed he.fits (atoms_prefix_printed he)
    rw [he.text, cuts_printed.text] at hlt
    exact Nat.lt_irrefl _ hlt

end Format

/-! ## The parts of a printed date -/

/-- A cutting gives the components of its fields, if their values depend on these alone. -/
theorem Cutting.get?_parts {c : Cutting} {v : Component → Int}
    (h : ∀ f piece, (.field f, piece) ∈ c → (f.value piece : Int) = v f.component)
    (k : Component) :
    c.parts.get? k = if k ∈ Segment.components c.atoms then some (v k) else none := by
  induction c with
  | nil => exact DateParts.get?_empty k
  | cons p c ih =>
    have htail := ih fun f piece hp => h f piece (List.mem_cons_of_mem _ hp)
    obtain ⟨a, piece⟩ := p
    cases a with
    | literal t => exact htail
    | field f =>
      have hcomponents : Segment.components (atoms ((.field f, piece) :: c)) =
          f.component :: Segment.components (atoms c) := rfl
      rw [parts, DateParts.get?_set, htail, h f piece List.mem_cons_self, hcomponents]
      by_cases hk : f.component = k
      · rw [if_pos hk, if_pos (hk ▸ List.mem_cons_self), hk]
      · simp [hk, Ne.symm hk]

namespace Format

theorem mem_fields_iff {f : Format} {g : Field} :
    g ∈ f.fields ↔ .field g ∈ f.segments.flatten := by
  have hfield : ∀ a : Atom, a.field? = some g ↔ a = .field g := by
    rintro (t | g') <;> simp [Atom.field?]
  simp only [fields, Segment.fields, List.mem_flatMap, List.mem_filterMap, List.mem_flatten, hfield,
    exists_eq_right]

variable {f : Format} {d : Date} {short : Bool}

theorem get?_parts_printed {v : Component → Int}
    (hv : ∀ g ∈ f.fields, g.printedValue short d = v g.component) (k : Component) :
    (f.printed d short).parts.get? k = if f.shape.has k then some (v k) else none := by
  have hvalue : ∀ g piece, (.field g, piece) ∈ f.printed d short →
      (g.value piece : Int) = v g.component := by
    intro g piece hp
    obtain ⟨hg, rfl⟩ := mem_printed.mp hp
    rw [← hv g (mem_fields_iff.mpr hg)]
    exact g.value_digits short d
  rw [Cutting.get?_parts hvalue, atoms_printed, components_flatten]
  refine if_congr ?_ rfl rfl
  rw [has_shape, List.mem_map]

theorem parts_printed (hv : ∀ g ∈ f.fields, g.printedValue short d = d.component g.component) :
    (f.printed d short).parts = d.partsIn f.shape := by
  refine DateParts.ext_get? fun k => ?_
  rw [get?_parts_printed hv, Date.get?_partsIn]

/-! ## Reading back -/

theorem resolve_eq_ok_iff {text : String} {reference e : Date} :
    f.resolve text reference = .ok e ↔
      ∃ parts, f.read text = .ok parts ∧ parts.complete reference = .ok e := by
  rw [resolve]
  split
  · rename_i herror
    simp [herror]
  · rename_i parts hread
    split
    · rename_i herror
      simp [hread, herror]
    · rename_i e' hok
      simp [hread, hok]

theorem readsBack_iff {text : String} :
    f.readsBack text d = true ↔ ∃ parts, f.read text = .ok parts ∧ parts.complete d = .ok d := by
  rw [← resolve_eq_ok_iff, readsBack]
  split
  · rename_i e hok
    simp [hok]
  · rename_i herror
    simp [herror]

theorem read_write (hlit : .literal [] ∉ f.segments.flatten)
    (hv : ∀ g ∈ f.fields, g.printedValue short d = d.component g.component) :
    f.read (f.write d short) = .ok (d.partsIn f.shape) :=
  (read_eq_ok_iff hlit).mpr ⟨_, isPreferred_printed hlit d short, parts_printed hv⟩

/-- A short year is chosen only where it stands for the year of the date. -/
theorem year_of_shortYearReadsBack (hwf : f.WellFormed) (hshort : .shortYear ∈ f.fields)
    (h : f.shortYearReadsBack d = true) : 2000 + d.year % 100 = d.year := by
  have hv : ∀ g ∈ f.fields, g.printedValue true d = d.shortComponent g.component := by
    intro g hg
    cases g with
    | day | month | shortYear => rfl
    | longYear =>
      have heq := List.inj_on_of_nodup_map hwf.2 hg hshort rfl
      cases heq
  obtain ⟨parts, hread, hcomplete⟩ := readsBack_iff.mp h
  have hlit := hwf.literal_nil_notMem
  rw [(read_eq_ok_iff hlit).mpr ⟨_, isPreferred_printed hlit d true, rfl⟩] at hread
  cases hread
  have hyear : (f.printed d true).parts.year = some (2000 + d.year % 100) := by
    have hget := get?_parts_printed hv .year
    have hhas : f.shape.has .year = true := has_shape.mpr ⟨_, hshort, rfl⟩
    rwa [if_pos hhas] at hget
  obtain ⟨_, hhas, _⟩ := DateParts.complete_eq_ok_iff.mp hcomplete
  exact (hhas .year _ hyear).symm

/-- A printed date is read as its parts in the shape of the format. -/
theorem read_print (hwf : f.WellFormed) (d : Date) :
    f.read (f.print d) = .ok (d.partsIn f.shape) := by
  have hlit := hwf.literal_nil_notMem
  have hlong : f.read (f.write d false) = .ok (d.partsIn f.shape) :=
    read_write hlit fun g _ => g.printedValue_false d
  rw [print]
  split
  · rename_i hshort
    cases hback : f.shortYearReadsBack d with
    | false => exact hlong
    | true =>
      refine read_write hlit fun g _ => ?_
      cases g with
      | day | month | longYear => rfl
      | shortYear => exact year_of_shortYearReadsBack hwf hshort hback
  · exact hlong

theorem resolve_print_iff (hwf : f.WellFormed) (d : Date) :
    f.resolve (f.print d) d = .ok d ↔ f.shape.Completable := by
  rw [resolve_eq_ok_iff, read_print hwf d]
  constructor
  · rintro ⟨_, hparts, hcomplete⟩
    cases hparts
    have hs := (DateParts.complete_eq_ok_iff.mp hcomplete).1
    rwa [d.shape_partsIn] at hs
  · intro hs
    exact ⟨_, rfl, DateParts.complete_partsIn d hs⟩

end Format

/-- A printed date is read as exactly the components that the format asks for, and leads back to
the date iff these can be completed. -/
theorem print_invertible {template : String} {f : Format}
    (h : Format.ofTemplate template = .ok f) (d : Date) :
    f.read (f.print d) = .ok (d.partsIn f.shape) ∧
    (f.resolve (f.print d) d = .ok d ↔ f.shape.Completable) ∧
    (f.readsBack (f.print d) d = true ↔ f.shape.Completable) := by
  have hwf := (Format.ofTemplate_eq_ok_iff.mp h).1
  have hresolve := Format.resolve_print_iff hwf d
  refine ⟨Format.read_print hwf d, hresolve, ?_⟩
  rw [← hresolve, Format.readsBack_iff, Format.resolve_eq_ok_iff]

/-- Without a separator the year 1915 is printed in full, and read back. -/
theorem print_invertible_compact :
    ∃ f, Format.ofTemplate "%y%m[%d1]" = .ok f ∧
      f.print ⟨1915, 2, 1, by decide⟩ = "191502011" ∧
      f.read "191502011" = .ok ⟨some 1, some 2, some 1915⟩ ∧
      f.resolve "191502011" ⟨1915, 2, 1, by decide⟩ = .ok ⟨1915, 2, 1, by decide⟩ := by
  have hf : Format.ofTemplate "%y%m[%d1]" =
      .ok ⟨[.field .shortYear, .field .month], [[.field .day, .literal ['1']]]⟩ := rfl
  obtain ⟨hread, hresolve, _⟩ := print_invertible hf ⟨1915, 2, 1, by decide⟩
  exact ⟨_, hf, rfl, hread, hresolve.mpr (by decide)⟩

end DatePrompt
