import DatePrompt.Entry.Reading
import DatePrompt.Proofs.CuttingLanguage
import DatePrompt.Proofs.Outcome

/-!
# The walk stays within the language

The walk that looks for the place of an error takes as many digits as there are and checks values
only after a whole segment. What it gets through is still a cutting of the entry
(`Format.cuts_of_walk`), so it never answers where the strict pattern has refused.
-/

namespace DatePrompt

theorem Cutting.inRange_of_outOfRange?_eq_none {position : Nat} {c : Cutting}
    (h : c.outOfRange? position = none) {f : Field} {piece : List Char}
    (hp : (Atom.field f, piece) ∈ c) : f.component.InRange (f.value piece) := by
  induction c generalizing position with
  | nil => cases hp
  | cons p c ih =>
    obtain ⟨a, piece'⟩ := p
    cases a with
    | literal t =>
      rcases List.mem_cons.mp hp with hp | hp
      · cases hp
      · exact ih h hp
    | field g =>
      rw [outOfRange?] at h
      split at h
      · rename_i hrange
        rcases List.mem_cons.mp hp with hp | hp
        · cases hp; exact hrange
        · exact ih h hp
      · cases h

/-- What is taken greedily fits if no value is out of range. -/
theorem Cutting.fits_of_accepts {position : Nat} {c : Cutting}
    (hacc : ∀ p ∈ c, DigitRule.greedy.Accepts p.1 p.2) (hrange : c.outOfRange? position = none) :
    ∀ p ∈ c, p.1.Fits p.2 := by
  rintro ⟨a, piece⟩ hp
  have hpiece := hacc _ hp
  cases a with
  | literal t => exact hpiece
  | field f =>
    obtain ⟨hlen, hdig⟩ := DigitRule.greedy_accepts_field_iff.mp hpiece
    exact ⟨hlen, hdig, inRange_of_outOfRange?_eq_none hrange hp⟩

/-- A segment that the walk takes is covered, since its values were found in range. -/
theorem Segment.covers_of_walk {position : Nat} {s : Segment} {input rest : List Char} {c : Cutting}
    (h : s.walk position input = .ok (c, rest)) : ∃ t, c.Covers s t ∧ t ++ rest = input := by
  rw [walk] at h
  split at h
  · cases h
  · rename_i c' rest' hhead
    split at h
    · cases h
    · rename_i hrange
      cases h
      obtain ⟨hatoms, htext, hacc⟩ := mem_cuttings_iff.mp (List.mem_of_head? hhead)
      exact ⟨c.text, ⟨hatoms, rfl, Cutting.fits_of_accepts hacc hrange⟩, htext⟩

theorem covers_of_walkGroups {position : Nat} {groups : List Segment} {input : List Char}
    {c : Cutting} (h : walkGroups position groups input = .ok c) :
    ∃ k, c.Covers (groups.take k).flatten input := by
  induction groups generalizing position input c with
  | nil =>
    cases input with
    | nil => cases h; exact ⟨0, .nil⟩
    | cons x input => cases h
  | cons s groups ih =>
    cases input with
    | nil => cases h; exact ⟨0, .nil⟩
    | cons x input =>
      rw [walkGroups] at h
      split at h
      · cases h
      · rename_i u rest hs
        obtain ⟨v, hv, rfl⟩ := map_eq_ok_iff.mp h
        obtain ⟨t, hcov, htext⟩ := Segment.covers_of_walk hs
        obtain ⟨k, hrest⟩ := ih hv
        exact ⟨k + 1, htext ▸ hcov.append hrest⟩

namespace Format

/-- What the walk gets through is a cutting of the entry. -/
theorem cuts_of_walk {f : Format} {input : List Char} {c : Cutting}
    (h : f.walk input = .ok c) : Cuts f input c := by
  rw [walk] at h
  split at h
  · cases h
  · rename_i u rest hs
    obtain ⟨v, hv, rfl⟩ := map_eq_ok_iff.mp h
    obtain ⟨t, hcov, htext⟩ := Segment.covers_of_walk hs
    obtain ⟨k, hrest⟩ := covers_of_walkGroups hv
    exact cuts_iff.mpr ⟨k, htext ▸ hcov.append hrest⟩

theorem exists_walk_eq_error {f : Format} {input : List Char} (h : f.cuttings input = []) :
    ∃ e, f.walk input = .error e := by
  cases hw : f.walk input with
  | error e => exact ⟨e, rfl⟩
  | ok c =>
    have hmem := mem_cuttings_iff.mpr (cuts_of_walk hw)
    rw [h] at hmem
    cases hmem

end Format

/-- The walk fails wherever the strict pattern does not match, and what it gets through is one of
the strict matches. -/
theorem walk_agrees_with_cuttings (f : Format) (input : List Char) :
    (f.cuttings input = [] → ∃ e, f.walk input = .error e ∧
      (e.kind = "MalformedInputError" ∨ e.kind = "TrailingInputError")) ∧
    ∀ c, f.walk input = .ok c → c ∈ f.cuttings input := by
  constructor
  · intro h
    obtain ⟨e, he⟩ := Format.exists_walk_eq_error h
    refine ⟨e, he, ?_⟩
    cases e with
    | unmatched | outOfRange => exact .inl rfl
    | trailing => exact .inr rfl
  · intro c h
    exact Format.mem_cuttings_iff.mpr (Format.cuts_of_walk h)

end DatePrompt
