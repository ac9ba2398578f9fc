import DatePrompt.Proofs.Stops

/-!
# Separated formats

In a separated format every field that something follows is followed by a literal that does not
begin with a digit, so a run of digits ends where the field does. Of two entries of which one
continues the other, the cuttings then agree on every piece behind which the first entry goes on
(`Cutting.Continues.drop`): what is typed on cannot change a field that is closed already. All
cuttings of one entry have the same values (`cuttings_agree`), so it does not matter in which order
they are tried.
-/

namespace DatePrompt

/-! ## Separation -/

/-- Whether the second atom may follow the first where fields are separated. -/
def Atom.Separated : Atom → Atom → Prop
  | .field _, .literal (x :: _) => x.isDigit = false
  | .field _, _ => False
  | .literal _, _ => True

instance : DecidableRel Atom.Separated
  | .field _, .literal (x :: _) => instDecidableEqBool x.isDigit false
  | .field _, .literal [] | .field _, .field _ => .isFalse id
  | .literal _, _ => .isTrue trivial

/-- Every field that another atom follows, in its segment or the next, is followed by a literal
that does not begin with a digit. -/
def Format.Separated (f : Format) : Prop := f.segments.flatten.IsChain Atom.Separated

instance : DecidablePred Format.Separated := fun f => by unfold Format.Separated; infer_instance

theorem Format.separated_german : german.Separated := by decide

namespace Cutting

/-- Whether the pieces fit the first of the atoms. -/
structure Along (c : Cutting) (as : List Atom) : Prop where
  atoms : c.atoms <+: as
  fits : ∀ p ∈ c, p.1.Fits p.2

theorem Along.of_cons {p : Atom × List Char} {c : Cutting} {as : List Atom}
    (h : Along (p :: c) as) : p.1.Fits p.2 ∧ ∃ as', as = p.1 :: as' ∧ c.Along as' := by
  obtain ⟨hp, hc⟩ := List.forall_mem_cons.mp h.fits
  cases as with
  | nil => cases List.prefix_nil.mp h.atoms
  | cons a as =>
    obtain ⟨hatom, hrest⟩ := List.cons_prefix_cons.mp h.atoms
    change p.1 = a at hatom
    exact ⟨hp, as, by rw [hatom], hrest, hc⟩

theorem along_of_cuts {f : Format} {text : List Char} {c : Cutting} (h : Cuts f text c) :
    c.Along f.segments.flatten := by
  refine ⟨?_, h.fits⟩
  have hatoms : c.atoms <+: (f.printed .first false).atoms := Format.atoms_prefix_printed h
  rwa [Format.atoms_printed] at hatoms

/-- Behind a field there is no digit: either a separator follows, or the text ends there and goes
on without one. -/
theorem Along.noDigitFirst {g : Field} {as : List Atom} {c : Cutting} (h : c.Along as)
    (hsep : (Atom.field g :: as).IsChain Atom.Separated) {more : List Char}
    (hmore : c ≠ [] ∨ NoDigitFirst more) : NoDigitFirst (c.text ++ more) := by
  cases c with
  | nil =>
    rcases hmore with hmore | hmore
    · exact absurd rfl hmore
    · exact hmore
  | cons p c =>
    obtain ⟨hp, as', rfl, _⟩ := h.of_cons
    obtain ⟨a, piece⟩ := p
    have hfirst := (List.isChain_cons_cons.mp hsep).1
    match a, hfirst with
    | .literal (x :: t), hfirst =>
      cases hp
      exact noDigitFirst_cons hfirst

/-- Two cuttings along the same separated atoms, the second of a text that continues that of the
first. -/
structure Continues (as : List Atom) (more : List Char) (c d : Cutting) : Prop where
  separated : as.IsChain Atom.Separated
  nonempty : .literal [] ∉ as
  before : c.Along as
  after : d.Along as
  text_eq : c.text ++ more = d.text

namespace Continues

variable {as : List Atom} {more : List Char} {c d : Cutting}

/-- The longer text is cut at least as far. -/
theorem exists_cons {p : Atom × List Char} (h : Continues as more (p :: c) d) :
    ∃ piece d', d = (p.1, piece) :: d' := by
  obtain ⟨hp, as', rfl, _⟩ := h.before.of_cons
  cases d with
  | nil =>
    have hne : p.2 ≠ [] :=
      Atom.ne_nil_of_fits hp fun hlit => h.nonempty (hlit ▸ List.mem_cons_self)
    have hnil := h.text_eq
    rw [text_cons, text_nil, List.append_assoc] at hnil
    exact absurd (List.append_eq_nil_iff.mp hnil).1 hne
  | cons q d =>
    obtain ⟨_, as'', heq, _⟩ := h.after.of_cons
    have hatom := (List.cons.inj heq).1
    exact ⟨q.2, d, by rw [hatom]⟩

/-- The step from one piece to the next: a closed piece is cut off both texts. -/
theorem of_cons {p : Atom × List Char} (h : Continues as more (p :: c) d)
    (hclosed : c ≠ [] ∨ NoDigitFirst more) :
    ∃ as' d', d = p :: d' ∧ Continues as' more c d' := by
  obtain ⟨piece, d', rfl⟩ := h.exists_cons
  obtain ⟨a, piece₀⟩ := p
  obtain ⟨hp, as', rfl, hc⟩ := h.before.of_cons
  obtain ⟨hq, as'', heq, hd⟩ := h.after.of_cons
  cases heq
  have htext := h.text_eq
  rw [text_cons, text_cons, List.append_assoc] at htext
  have hpiece : piece₀ = piece ∧ text c ++ more = text d' := by
    cases a with
    | literal t =>
      have heq : piece₀ = piece := Eq.trans hp (Eq.symm hq)
      subst heq
      exact ⟨rfl, List.append_cancel_left htext⟩
    | field g =>
      have hafter : NoDigitFirst (text d' ++ []) :=
        hd.noDigitFirst h.separated (.inr noDigitFirst_nil)
      rw [List.append_nil] at hafter
      exact digits_append_inj hp.2.1 hq.2.1 (hc.noDigitFirst h.separated hclosed) hafter htext
  obtain ⟨rfl, hrest⟩ := hpiece
  refine ⟨as', d', rfl, List.IsChain.of_cons h.separated, ?_, hc, hd, hrest⟩
  exact fun hlit => h.nonempty (List.mem_cons_of_mem _ hlit)

/-- All pieces behind which the first text goes on are cut off both texts. -/
theorem drop {u v : Cutting} (h : Continues as more (u ++ v) d) (hv : v ≠ []) :
    ∃ as' w, d = u ++ w ∧ Continues as' more v w := by
  induction u generalizing as d with
  | nil => exact ⟨as, d, rfl, h⟩
  | cons p u ih =>
    obtain ⟨as', d', rfl, hrest⟩ := h.of_cons (.inl (List.append_ne_nil_of_right_ne_nil u hv))
    obtain ⟨as'', w, rfl, hw⟩ := ih hrest
    exact ⟨as'', w, rfl, hw⟩

/-- The longer text is cut along the atoms of the shorter one and maybe more. -/
theorem prefix_atoms (h : Continues as more c d) : c.atoms <+: d.atoms := by
  rcases List.eq_nil_or_concat c with rfl | ⟨u, p, rfl⟩
  · exact List.nil_prefix
  · rw [List.concat_eq_append] at h ⊢
    obtain ⟨as', w, rfl, hw⟩ := h.drop (List.cons_ne_nil p [])
    obtain ⟨piece, w', rfl⟩ := hw.exists_cons
    rw [atoms_append, atoms_append]
    exact List.prefix_append_right_inj _ |>.mpr ⟨atoms w', rfl⟩

/-- Of one text there are no two cuttings. -/
theorem eq (h : Continues as [] c d) : c = d := by
  induction c generalizing as d with
  | nil =>
    cases d with
    | nil => rfl
    | cons q d =>
      have hback : Continues as [] (q :: d) [] := by
        refine ⟨h.separated, h.nonempty, h.after, h.before, ?_⟩
        rw [List.append_nil, ← h.text_eq, List.append_nil]
      obtain ⟨_, _, hnil⟩ := hback.exists_cons
      cases hnil
  | cons p c ih =>
    obtain ⟨as', d', rfl, hrest⟩ := h.of_cons (.inr noDigitFirst_nil)
    rw [ih hrest]

theorem mem_of_closed {u v : Cutting} {p : Atom × List Char}
    (h : Continues as more (u ++ p :: v) d) (hclosed : v ≠ [] ∨ NoDigitFirst more) : p ∈ d := by
  obtain ⟨as', w, rfl, hw⟩ := h.drop (List.cons_ne_nil p v)
  obtain ⟨_, w', rfl, _⟩ := hw.of_cons hclosed
  exact List.mem_append_right u List.mem_cons_self

end Continues

/-- A separated format cuts a text in one way at most. -/
theorem eq_of_separated {f : Format} (hsep : f.Separated) (hlit : .literal [] ∉ f.segments.flatten)
    {text : List Char} {c d : Cutting} (hc : Cuts f text c) (hd : Cuts f text d) : c = d := by
  have hcont : Continues f.segments.flatten [] c d := by
    refine ⟨hsep, hlit, along_of_cuts hc, along_of_cuts hd, ?_⟩
    rw [hc.text, hd.text, List.append_nil]
  exact hcont.eq

end Cutting

/-- In a separated format typing on takes no component away, and no field that is closed changes
its value: one behind which the entry goes on, or which ends the entry and is followed by what is
no digit. -/
theorem closed_fields_keep_value {template : String} {f : Format}
    (h : Format.ofTemplate template = .ok f) (hsep : f.Separated) {text more : String}
    {parts parts' : DateParts} (hread : f.read text = .ok parts)
    (hread' : f.read (text ++ more) = .ok parts') :
    (∀ k, parts.shape.has k = true → parts'.shape.has k = true) ∧
    ∃ c, f.IsPreferred text.toList c ∧ c.parts = parts ∧
      ∀ (u v : Cutting) g piece, c = u ++ (.field g, piece) :: v →
        (v.text ≠ [] ∨ ∃ x rest, more.toList = x :: rest ∧ x.isDigit = false) →
          parts.get? g.component = some (g.value piece : Int) ∧
          parts'.get? g.component = some (g.value piece : Int) := by
  have hwf := (Format.ofTemplate_eq_ok_iff.mp h).1
  have hlit := hwf.literal_nil_notMem
  obtain ⟨c, hc, rfl⟩ := (Format.read_eq_ok_iff hlit).mp hread
  obtain ⟨d, hd, rfl⟩ := (Format.read_eq_ok_iff hlit).mp hread'
  have hcalong := Cutting.along_of_cuts hc.cuts
  have hdalong := Cutting.along_of_cuts hd.cuts
  have hcont : Cutting.Continues f.segments.flatten more.toList c d := by
    refine ⟨hsep, hlit, hcalong, hdalong, ?_⟩
    rw [hc.cuts.text, hd.cuts.text, String.toList_append]
  constructor
  · intro k hk
    rw [Cutting.has_shape_parts] at hk ⊢
    exact (Segment.prefix_components hcont.prefix_atoms).subset hk
  · refine ⟨c, hc, rfl, ?_⟩
    rintro u v g piece rfl hclosed
    have hmem : (.field g, piece) ∈ d := by
      refine hcont.mem_of_closed ?_
      rcases hclosed with hv | ⟨x, rest, hmore, hx⟩
      · exact .inl fun hnil => hv (by rw [hnil, Cutting.text_nil])
      · exact .inr (hmore ▸ noDigitFirst_cons hx)
    exact ⟨hc.cuts.get?_parts hwf (List.mem_append_right u List.mem_cons_self),
      hd.cuts.get?_parts hwf hmem⟩

theorem closed_fields_keep_value_german :
    ∃ f, Format.ofTemplate "%d[.[%m[.[%y]]]]" = .ok f ∧ f.Separated ∧
      f.read "31.1" = .ok ⟨some 31, some 1, none⟩ ∧
      f.read ("31.1" ++ ".15") = .ok ⟨some 31, some 1, some 2015⟩ ∧
      ∃ c, f.IsPreferred "31.1".toList c ∧
        ∀ (u v : Cutting) (g : Field) piece, c = u ++ (.field g, piece) :: v →
          (⟨some 31, some 1, some 2015⟩ : DateParts).get? g.component =
            some (g.value piece : Int) := by
  have hf : Format.ofTemplate "%d[.[%m[.[%y]]]]" = .ok Format.german := rfl
  have hread : Format.german.read "31.1" = .ok ⟨some 31, some 1, none⟩ := rfl
  have hread' : Format.german.read ("31.1" ++ ".15") = .ok ⟨some 31, some 1, some 2015⟩ := rfl
  obtain ⟨-, c, hc, -, hkeep⟩ :=
    closed_fields_keep_value hf Format.separated_german hread hread'
  refine ⟨_, hf, Format.separated_german, hread, hread', c, hc, fun u v g piece heq => ?_⟩
  exact (hkeep u v g piece heq (.inr ⟨'.', ['1', '5'], rfl, rfl⟩)).2

/-- In a format that is not separated a digit more can change the year before it. -/
example :
    (⟨[.field .shortYear], [[.field .month]]⟩ : Format).read "1512" =
      .ok ⟨none, some 12, some 2015⟩ ∧
    (⟨[.field .shortYear], [[.field .month]]⟩ : Format).read "15121" =
      .ok ⟨none, some 1, some 1512⟩ := ⟨rfl, rfl⟩

/-! ## One way to cut an entry -/

/-- In a separated format any cutting of an entry is the one that it is read by. -/
theorem Format.read_of_separated {f : Format} (hsep : f.Separated)
    (hlit : .literal [] ∉ f.segments.flatten) {text : String} {c : Cutting}
    (hc : Cuts f text.toList c) : f.read text = .ok c.parts := by
  obtain ⟨parts, hread⟩ := exists_read_eq_ok_iff.mpr ⟨c, hc⟩
  obtain ⟨d, hd, rfl⟩ := read_eq_ok_iff_head?.mp hread
  have hcuts : Cuts f text.toList d := mem_cuttings_iff.mp (List.mem_of_head? hd)
  rw [hread, Cutting.eq_of_separated hsep hlit hc hcuts]

/-- In a separated format all cuttings of an entry give the same parts, wherever they stop. The
entry is therefore read the same in whatever order its cuttings are tried: the first of any list of
them does. -/
theorem cuttings_agree {template : String} {f : Format} (h : Format.ofTemplate template = .ok f)
    (hsep : f.Separated) (text : String) :
    (∀ c d, Cuts f text.toList c → Cuts f text.toList d → c.parts = d.parts) ∧
    (∀ c, Cuts f text.toList c → f.read text = .ok c.parts) ∧
    ∀ tried : List Cutting, (∀ c, c ∈ tried ↔ Cuts f text.toList c) →
      tried.head?.map Cutting.parts = (f.read text).toOption := by
  have hlit := (Format.ofTemplate_eq_ok_iff.mp h).1.literal_nil_notMem
  refine ⟨fun c d hc hd => ?_, fun c => Format.read_of_separated hsep hlit, fun tried htried => ?_⟩
  · rw [Cutting.eq_of_separated hsep hlit hc hd]
  · cases tried with
    | nil =>
      cases hread : f.read text with
      | error e => rfl
      | ok parts =>
        obtain ⟨c, hc⟩ := Format.exists_read_eq_ok_iff.mp ⟨parts, hread⟩
        exact absurd ((htried c).mpr hc) List.not_mem_nil
    | cons c tried =>
      have hc := (htried c).mp List.mem_cons_self
      rw [Format.read_of_separated hsep hlit hc]
      rfl

/-- The empty group after the day and the digit of the separator leave no choice, so the last
cutting that is listed is as good as the first. -/
theorem cuttings_agree_empty_group :
    ∃ f, Format.ofTemplate "%d[[.1[%m]]]" = .ok f ∧ f.Separated ∧
      (f.cuttings "3.112".toList).reverse.head?.map Cutting.parts =
        some ⟨some 3, some 12, none⟩ := by
  have hf : Format.ofTemplate "%d[[.1[%m]]]" =
      .ok ⟨[.field .day], [[], [.literal ['.', '1']], [.field .month]]⟩ := rfl
  have hsep : Format.Separated
      ⟨[.field .day], [[], [.literal ['.', '1']], [.field .month]]⟩ := by decide
  refine ⟨_, hf, hsep, ?_⟩
  refine (cuttings_agree hf hsep "3.112").2.2 _ fun c => ?_
  rw [List.mem_reverse, Format.mem_cuttings_iff]

end DatePrompt
