import DatePrompt.Proofs.DigitRows

/-!
# The listed cuttings are the cuttings

A rule of digits lists pieces, segments and groups by trying; here the lists are compared with what
they are lists of. A piece is listed iff the rule accepts it (`Atom.mem_pieces_iff`), which for the
strict rule means that it fits (`DigitRule.strict_accepts_iff`). From there the fact climbs to the
segments and, through the optional groups, to the format: `Format.mem_cuttings_iff`.
-/

namespace DatePrompt

namespace DigitRule

/-- Whether an atom may cover a piece of text under the rule. -/
def Accepts (rule : DigitRule) : Atom → List Char → Prop
  | .literal t, piece => piece = t
  | .field f, piece => ∃ row ∈ rule.rows f, row.takes piece = true

theorem strict_accepts_iff {a : Atom} {piece : List Char} :
    strict.Accepts a piece ↔ a.Fits piece := by
  cases a with
  | literal t => exact Iff.rfl
  | field f => exact Field.exists_rows_iff

/-- The greedy rule accepts every run that is no wider than the field. -/
theorem greedy_accepts_field_iff {f : Field} {piece : List Char} :
    greedy.Accepts (.field f) piece ↔
      (1 ≤ piece.length ∧ piece.length ≤ f.maxWidth) ∧ piece.all Char.isDigit = true := by
  constructor
  · rintro ⟨row, hrow, htakes⟩
    obtain ⟨w, hw, rfl⟩ := List.mem_map.mp (List.mem_reverse.mp hrow)
    have hlt := List.mem_range.mp hw
    obtain ⟨hlen, hdig⟩ := DigitRow.takes_replicate_any.mp htakes
    exact ⟨by omega, hdig⟩
  · rintro ⟨hlen, hdig⟩
    have hw : piece.length - 1 ∈ List.range f.maxWidth := List.mem_range.mpr (by omega)
    refine ⟨_, List.mem_reverse.mpr (List.mem_map_of_mem hw), ?_⟩
    exact DigitRow.takes_replicate_any.mpr ⟨by omega, hdig⟩

end DigitRule

theorem Atom.mem_pieces_iff {rule : DigitRule} {a : Atom} {input piece rest : List Char} :
    (piece, rest) ∈ a.pieces rule input ↔ piece ++ rest = input ∧ rule.Accepts a piece := by
  refine ⟨fun h => ⟨append_of_mem_pieces h, ?_⟩, ?_⟩
  · cases a with
    | literal t =>
      rw [pieces] at h
      split at h
      · cases List.mem_singleton.mp h; rfl
      · cases h
    | field f =>
      obtain ⟨row, hrow, h⟩ := List.mem_filterMap.mp h
      split at h
      · rename_i htakes
        cases h
        exact ⟨row, hrow, htakes⟩
      · cases h
  · rintro ⟨rfl, h⟩
    cases a with
    | literal t =>
      cases h
      rw [pieces, if_pos (List.isPrefixOf_iff_prefix.mpr (List.prefix_append _ _)), List.drop_left]
      exact List.mem_singleton_self _
    | field f =>
      obtain ⟨row, hrow, htakes⟩ := h
      refine List.mem_filterMap.mpr ⟨row, hrow, ?_⟩
      rw [← DigitRow.length_of_takes htakes, List.take_left, List.drop_left, if_pos htakes]

/-- The pieces of a segment's cuttings are those that the rule accepts. -/
theorem Segment.mem_cuttings_iff {rule : DigitRule} {s : Segment} {input rest : List Char}
    {c : Cutting} : (c, rest) ∈ s.cuttings rule input ↔
      c.atoms = s ∧ c.text ++ rest = input ∧ ∀ p ∈ c, rule.Accepts p.1 p.2 := by
  induction s generalizing input c with
  | nil =>
    rw [cuttings, List.mem_singleton, Prod.mk.injEq, Cutting.atoms, List.map_eq_nil_iff]
    constructor
    · rintro ⟨rfl, rfl⟩
      exact ⟨rfl, rfl, fun p hp => by cases hp⟩
    · rintro ⟨rfl, rfl, _⟩
      exact ⟨rfl, rfl⟩
  | cons a s ih =>
    constructor
    · intro h
      refine ⟨(of_mem_cuttings h).1, (of_mem_cuttings h).2, ?_⟩
      obtain ⟨⟨piece, mid⟩, hpiece, h⟩ := List.mem_flatMap.mp h
      obtain ⟨⟨d, rest'⟩, hd, h⟩ := List.mem_map.mp h
      cases h
      exact List.forall_mem_cons.mpr ⟨(Atom.mem_pieces_iff.mp hpiece).2, (ih.mp hd).2.2⟩
    · rintro ⟨hatoms, htext, hacc⟩
      cases c with
      | nil => cases hatoms
      | cons p c =>
        obtain ⟨rfl, hrest⟩ := List.cons.inj hatoms
        obtain ⟨hp, hc⟩ := List.forall_mem_cons.mp hacc
        refine List.mem_flatMap.mpr ⟨(p.2, Cutting.text c ++ rest), ?_, ?_⟩
        · rw [Cutting.text_cons, List.append_assoc] at htext
          exact Atom.mem_pieces_iff.mpr ⟨htext, hp⟩
        · exact List.mem_map.mpr ⟨(c, rest), ih.mpr ⟨hrest, rfl, hc⟩, rfl⟩

/-! ## Covers -/

theorem Cutting.atoms_append (c d : Cutting) : atoms (c ++ d) = c.atoms ++ d.atoms :=
  List.map_append

/-- The pieces fit the atoms one by one and make up the text. -/
structure Cutting.Covers (c : Cutting) (atoms : List Atom) (text : List Char) : Prop where
  atoms_eq : c.atoms = atoms
  text_eq : c.text = text
  fits : ∀ p ∈ c, p.1.Fits p.2

namespace Cutting.Covers

theorem nil : Covers [] [] [] := ⟨rfl, rfl, fun p hp => by cases hp⟩

theorem nil_iff {c : Cutting} {text : List Char} : c.Covers [] text ↔ c = [] ∧ text = [] := by
  constructor
  · rintro ⟨hatoms, rfl, _⟩
    cases List.map_eq_nil_iff.mp hatoms
    exact ⟨rfl, rfl⟩
  · rintro ⟨rfl, rfl⟩
    exact nil

theorem append {c d : Cutting} {as bs : List Atom} {t u : List Char} (hc : c.Covers as t)
    (hd : d.Covers bs u) : Covers (c ++ d) (as ++ bs) (t ++ u) where
  atoms_eq := by rw [atoms_append, hc.atoms_eq, hd.atoms_eq]
  text_eq := by rw [text_append, hc.text_eq, hd.text_eq]
  fits := List.forall_mem_append.mpr ⟨hc.fits, hd.fits⟩

/-- What covers atoms one after the other is cut between them. -/
theorem exists_of_append {c : Cutting} {as bs : List Atom} {text : List Char}
    (h : c.Covers (as ++ bs) text) :
    ∃ u v t t', c = u ++ v ∧ text = t ++ t' ∧ u.Covers as t ∧ v.Covers bs t' := by
  obtain ⟨u, v, rfl, hu, hv⟩ := List.map_eq_append_iff.mp h.atoms_eq
  obtain ⟨fitsu, fitsv⟩ := List.forall_mem_append.mp h.fits
  refine ⟨u, v, Cutting.text u, Cutting.text v, rfl, ?_, ⟨hu, rfl, fitsu⟩, ⟨hv, rfl, fitsv⟩⟩
  rw [← h.text_eq, text_append]

end Cutting.Covers

theorem Segment.mem_strict_cuttings_iff {s : Segment} {input rest : List Char} {c : Cutting} :
    (c, rest) ∈ s.cuttings .strict input ↔ ∃ t, c.Covers s t ∧ t ++ rest = input := by
  simp only [mem_cuttings_iff, DigitRule.strict_accepts_iff]
  constructor
  · rintro ⟨hatoms, htext, hfits⟩
    exact ⟨_, ⟨hatoms, rfl, hfits⟩, htext⟩
  · rintro ⟨_, ⟨hatoms, rfl, hfits⟩, htext⟩
    exact ⟨hatoms, htext, hfits⟩

/-- What is listed for a segment and then for what it leaves is cut between the two. -/
theorem Segment.mem_flatMap_cuttings_iff {s : Segment} {input : List Char} {c : Cutting}
    {next : List Char → List Cutting} :
    (c ∈ (s.cuttings .strict input).flatMap fun (u, rest) => (next rest).map (u ++ ·)) ↔
      ∃ u v t rest, c = u ++ v ∧ input = t ++ rest ∧ u.Covers s t ∧ v ∈ next rest := by
  constructor
  · intro h
    obtain ⟨⟨u, rest⟩, hu, h⟩ := List.mem_flatMap.mp h
    obtain ⟨v, hv, rfl⟩ := List.mem_map.mp h
    obtain ⟨t, hcov, rfl⟩ := mem_strict_cuttings_iff.mp hu
    exact ⟨u, v, t, rest, rfl, rfl, hcov, hv⟩
  · rintro ⟨u, v, t, rest, rfl, rfl, hu, hv⟩
    refine List.mem_flatMap.mpr ⟨(u, rest), ?_, List.mem_map_of_mem hv⟩
    exact mem_strict_cuttings_iff.mpr ⟨t, hu, rfl⟩

theorem mem_groupCuttings_iff {groups : List Segment} {input : List Char} {c : Cutting} :
    c ∈ groupCuttings groups input ↔ ∃ k, c.Covers (groups.take k).flatten input := by
  induction groups generalizing input c with
  | nil =>
    simp only [List.take_nil, List.flatten_nil, Cutting.Covers.nil_iff, exists_const, groupCuttings]
    split
    · rename_i h; simp [h]
    · rename_i h; simp [h]
  | cons s groups ih =>
    rw [groupCuttings, List.mem_append, Segment.mem_flatMap_cuttings_iff]
    constructor
    · rintro (⟨u, v, t, rest, rfl, rfl, hu, hv⟩ | h)
      · obtain ⟨k, hv⟩ := ih.mp hv
        exact ⟨k + 1, hu.append hv⟩
      · split at h
        · rename_i hinput
          cases List.mem_singleton.mp h
          exact ⟨0, Cutting.Covers.nil_iff.mpr ⟨rfl, hinput⟩⟩
        · cases h
    · rintro ⟨k, h⟩
      cases k with
      | zero =>
        obtain ⟨rfl, rfl⟩ := Cutting.Covers.nil_iff.mp h
        exact .inr (List.mem_singleton_self _)
      | succ k =>
        obtain ⟨u, v, t, rest, hc, hinput, hu, hv⟩ := h.exists_of_append
        exact .inl ⟨u, v, t, rest, hc, hinput, hu, ih.mpr ⟨k, hv⟩⟩

theorem cuts_iff {f : Format} {text : List Char} {c : Cutting} :
    Cuts f text c ↔ ∃ k, c.Covers (f.head ++ (f.groups.take k).flatten) text := by
  constructor
  · rintro ⟨⟨k, hatoms⟩, htext, hfits⟩
    exact ⟨k, hatoms, htext, hfits⟩
  · rintro ⟨k, hatoms, htext, hfits⟩
    exact ⟨⟨k, hatoms⟩, htext, hfits⟩

/-- The listed cuttings of an entry are all that there are. -/
theorem Format.mem_cuttings_iff {f : Format} {input : List Char} {c : Cutting} :
    c ∈ f.cuttings input ↔ Cuts f input c := by
  rw [cuts_iff, cuttings, Segment.mem_flatMap_cuttings_iff]
  constructor
  · rintro ⟨u, v, t, rest, rfl, rfl, hu, hv⟩
    obtain ⟨k, hv⟩ := mem_groupCuttings_iff.mp hv
    exact ⟨k, hu.append hv⟩
  · rintro ⟨k, h⟩
    obtain ⟨u, v, t, rest, hc, hinput, hu, hv⟩ := h.exists_of_append
    exact ⟨u, v, t, rest, hc, hinput, hu, mem_groupCuttings_iff.mpr ⟨k, hv⟩⟩

end DatePrompt
