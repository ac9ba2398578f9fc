import DatePrompt.Proofs.Preference

/-!
# Where an entry goes wrong

The walk goes forward only as long as what it took fits, so an error comes with a cutting of all
that stands before it: `Misread` says this for each error, and `misread_of_walkGroups` keeps it from
one segment to the next. Where a whole number of segments was taken, what stands before the error
is an entry of its own, and the strict pattern reads it.
-/

namespace DatePrompt

/-- What an error says of a text that was followed along a chain of segments. -/
inductive Misread (chain : List Segment) (text : List Char) : ReadError → Prop
  | unmatched {done todo : List Segment} {s : Segment} {before : Cutting} {taken rest : List Char}
      (hchain : chain = done ++ s :: todo) (hbefore : before.Covers done.flatten taken)
      (htext : text = taken ++ rest) (hentered : done = [] ∨ rest ≠ [])
      (hnone : s.cuttings .greedy rest = []) :
      Misread chain text (.unmatched taken.length rest s)
  | outOfRange {as : List Atom} {g : Field} {before : Cutting} {taken piece rest : List Char}
      (hchain : as ++ [.field g] <+: chain.flatten) (hbefore : before.Covers as taken)
      (htext : text = taken ++ piece ++ rest)
      (hdigits : (1 ≤ piece.length ∧ piece.length ≤ g.maxWidth) ∧ piece.all Char.isDigit = true)
      (hrange : ¬ g.component.InRange (g.value piece)) :
      Misread chain text (.outOfRange taken.length g.component (g.value piece))
  | trailing {before : Cutting} {taken rest : List Char}
      (hbefore : before.Covers chain.flatten taken) (htext : text = taken ++ rest)
      (hrest : rest ≠ []) :
      Misread chain text (.trailing taken.length rest)

/-! ## The walk -/

/-- The field whose value is reported is the first that is out of range. -/
theorem Cutting.exists_of_outOfRange?_eq_some {position p : Nat} {c : Cutting} {k : Component}
    {n : Nat} (h : c.outOfRange? position = some (p, k, n)) :
    ∃ (u : Cutting) (g : Field) (piece : List Char) (v : Cutting),
      c = u ++ (.field g, piece) :: v ∧ u.outOfRange? position = none ∧
      p = position + u.text.length ∧ k = g.component ∧ n = g.value piece ∧
      ¬ g.component.InRange (g.value piece) := by
  induction c generalizing position with
  | nil => cases h
  | cons q c ih =>
    obtain ⟨a, piece'⟩ := q
    cases a with
    | literal t =>
      obtain ⟨u, g, piece, v, rfl, hu, rfl, hfound⟩ := ih h
      refine ⟨(.literal t, piece') :: u, g, piece, v, rfl, hu, ?_, hfound⟩
      rw [text_cons, List.length_append, Nat.add_assoc]
    | field f =>
      rw [outOfRange?] at h
      split at h
      · rename_i hf
        obtain ⟨u, g, piece, v, rfl, hu, rfl, hfound⟩ := ih h
        refine ⟨(.field f, piece') :: u, g, piece, v, rfl, ?_, ?_, hfound⟩
        · rw [outOfRange?, if_pos hf, hu]
        · rw [text_cons, List.length_append, Nat.add_assoc]
      · rename_i hf
        cases h
        exact ⟨[], f, piece', c, rfl, rfl, rfl, rfl, rfl, hf⟩

/-- A segment fails because it does not match or because of a value. -/
theorem Segment.of_walk_eq_error {position : Nat} {s : Segment} {input : List Char}
    {e : ReadError} (h : s.walk position input = .error e) :
    (s.cuttings .greedy input = [] ∧ e = .unmatched position input s) ∨
      ∃ c rest p k n, (s.cuttings .greedy input).head? = some (c, rest) ∧
        c.outOfRange? position = some (p, k, n) ∧ e = .outOfRange p k n := by
  rw [walk] at h
  split at h
  · rename_i hnone
    cases h
    exact .inl ⟨List.head?_eq_none_iff.mp hnone, rfl⟩
  · rename_i c rest hhead
    split at h
    · rename_i p k n hrange
      cases h
      exact .inr ⟨c, rest, p, k, n, hhead, hrange, rfl⟩
    · cases h

variable {chain done : List Segment} {before : Cutting} {taken input : List Char} {e : ReadError}

/-- The first segment that the walk does not take. -/
theorem misread_of_walk {s : Segment} {todo : List Segment} (hchain : chain = done ++ s :: todo)
    (hbefore : before.Covers done.flatten taken) (hentered : done = [] ∨ input ≠ [])
    (h : s.walk taken.length input = .error e) : Misread chain (taken ++ input) e := by
  rcases Segment.of_walk_eq_error h with ⟨hnone, rfl⟩ | ⟨c, rest, p, k, n, hhead, hrange, rfl⟩
  · exact .unmatched hchain hbefore rfl hentered hnone
  · obtain ⟨u, g, piece, v, rfl, hu, rfl, rfl, rfl, hout⟩ :=
      Cutting.exists_of_outOfRange?_eq_some hrange
    obtain ⟨hatoms, htext, hacc⟩ := Segment.mem_cuttings_iff.mp (List.mem_of_head? hhead)
    obtain ⟨haccu, haccv⟩ := List.forall_mem_append.mp hacc
    have hfits : u.Covers u.atoms u.text := ⟨rfl, rfl, Cutting.fits_of_accepts haccu hu⟩
    have hdigits := DigitRule.greedy_accepts_field_iff.mp (haccv _ List.mem_cons_self)
    have hprefix : done.flatten ++ u.atoms ++ [.field g] <+: chain.flatten := by
      refine ⟨Cutting.atoms v ++ todo.flatten, ?_⟩
      rw [hchain, ← hatoms]
      simp [Cutting.atoms]
    have hsplit : taken ++ input = taken ++ u.text ++ piece ++ (Cutting.text v ++ rest) := by
      rw [← htext]
      simp
    rw [← List.length_append]
    exact .outOfRange hprefix (hbefore.append hfits) hsplit hdigits hout

/-- From one segment to the next: what was taken is cut along the segments that are done. -/
theorem misread_of_walkGroups {groups : List Segment} (hchain : chain = done ++ groups)
    (hbefore : before.Covers done.flatten taken)
    (h : walkGroups taken.length groups input = .error e) : Misread chain (taken ++ input) e := by
  induction groups generalizing done before taken input with
  | nil =>
    cases input with
    | nil => cases h
    | cons x input =>
      cases h
      rw [List.append_nil] at hchain
      exact .trailing (hchain ▸ hbefore) rfl (List.cons_ne_nil x input)
  | cons s groups ih =>
    cases input with
    | nil => cases h
    | cons x input =>
      rw [walkGroups] at h
      split at h
      · rename_i e' hs
        cases h
        exact misread_of_walk hchain hbefore (.inr (List.cons_ne_nil x input)) hs
      · rename_i c rest hs
        have hrest := map_eq_error_iff.mp h
        obtain ⟨t, hcov, htext⟩ := Segment.covers_of_walk hs
        have hdone : (before ++ c).Covers (done ++ [s]).flatten (taken ++ t) := by
          rw [List.flatten_append, List.flatten_singleton]
          exact hbefore.append hcov
        rw [hcov.text_eq, ← List.length_append] at hrest
        have hmisread := ih (by rw [hchain, List.append_cons]) hdone hrest
        rwa [List.append_assoc, htext] at hmisread

theorem Format.misread_of_read {f : Format} {text : String} (h : f.read text = .error e) :
    Misread f.segments text.toList e := by
  rw [read] at h
  split at h
  · cases h
  · have hwalk := map_eq_error_iff.mp h
    rw [walk] at hwalk
    split at hwalk
    · rename_i e' hs
      cases hwalk
      have hchain : f.segments = [] ++ f.head :: f.groups := rfl
      have hnothing : Cutting.Covers [] ([] : List Segment).flatten [] := .nil
      exact misread_of_walk hchain hnothing (.inl rfl) hs
    · rename_i c rest hs
      have hrest := map_eq_error_iff.mp hwalk
      obtain ⟨t, hcov, htext⟩ := Segment.covers_of_walk hs
      have hchain : f.segments = [f.head] ++ f.groups := rfl
      have hhead : c.Covers [f.head].flatten t := by rwa [List.flatten_singleton]
      rw [hcov.text_eq] at hrest
      rw [← htext]
      exact misread_of_walkGroups hchain hhead hrest

/-! ## The position of an error -/

/-- An error is at a character of the text, or at the beginning of an empty one. -/
theorem Misread.position_lt {text : List Char} (h : Misread chain text e) :
    text = [] ∧ e.position = 0 ∨ e.position < text.length := by
  cases h with
  | @unmatched done todo s before taken rest hchain hbefore htext hentered hnone =>
    by_cases hrest : rest = []
    · -- only the head is looked for where nothing is left
      rcases hentered with rfl | hne
      · obtain ⟨-, rfl⟩ := Cutting.Covers.nil_iff.mp hbefore
        exact .inl ⟨by rw [htext, hrest]; rfl, rfl⟩
      · exact absurd hrest hne
    · have hpos := List.length_pos_iff.mpr hrest
      rw [htext, List.length_append]
      exact .inr (Nat.lt_add_of_pos_right hpos)
  | outOfRange hchain hbefore htext hdigits hrange =>
    have hpos := hdigits.1.1
    rw [htext, List.length_append, List.length_append, ReadError.position]
    exact .inr (by omega)
  | trailing hbefore htext hrest =>
    have hpos := List.length_pos_iff.mpr hrest
    rw [htext, List.length_append]
    exact .inr (Nat.lt_add_of_pos_right hpos)

/-- What covers the head and some of the groups is an entry of its own. -/
theorem Format.exists_read_of_covers {f : Format} {todo : List Segment} (hdone : done ≠ [])
    (hchain : f.segments = done ++ todo) (hbefore : before.Covers done.flatten taken) :
    ∃ parts, f.read (String.ofList taken) = .ok parts := by
  cases done with
  | nil => exact absurd rfl hdone
  | cons s done =>
    obtain ⟨rfl, hgroups⟩ := List.cons.inj hchain
    rw [List.append_eq] at hgroups
    rw [exists_read_eq_ok_iff, String.toList_ofList]
    refine ⟨before, cuts_iff.mpr ⟨done.length, ?_⟩⟩
    rwa [hgroups, List.take_left]

namespace Misread

variable {f : Format} {text : String} {p : Nat} {rest : List Char}

theorem exists_read_of_trailing (h : Misread f.segments text.toList (.trailing p rest)) :
    ∃ parts, f.read (String.ofList (text.toList.take p)) = .ok parts := by
  cases h with
  | trailing hbefore htext hrest =>
    rw [htext, List.take_left]
    exact Format.exists_read_of_covers (List.cons_ne_nil _ _) (List.append_nil _).symm hbefore

theorem exists_read_of_unmatched {s : Segment}
    (h : Misread f.segments text.toList (.unmatched p rest s)) (hp : 0 < p) :
    ∃ parts, f.read (String.ofList (text.toList.take p)) = .ok parts := by
  cases h with
  | unmatched hchain hbefore htext hentered hnone =>
    rw [htext, List.take_left]
    refine Format.exists_read_of_covers ?_ hchain hbefore
    rintro rfl
    obtain ⟨-, rfl⟩ := Cutting.Covers.nil_iff.mp hbefore
    exact absurd hp (Nat.lt_irrefl 0)

theorem exists_digit_of_outOfRange {text : List Char} {k : Component} {n : Nat}
    (h : Misread chain text (.outOfRange p k n)) :
    ∃ x, text[p]? = some x ∧ x.isDigit = true := by
  cases h with
  | @outOfRange as g before taken digits rest hchain hbefore htext hdigits hrange =>
    cases digits with
    | nil => exact absurd hdigits.1.1 (Nat.not_succ_le_zero 0)
    | cons x digits =>
      refine ⟨x, ?_, List.all_eq_true.mp hdigits.2 x List.mem_cons_self⟩
      rw [htext, List.append_assoc, List.getElem?_append_right (Nat.le_refl _), Nat.sub_self]
      rfl

end Misread

/-- An error is at a character of the entry, unless that is empty. What stands before an error is
read, unless the error is a value; then it is cut along the format as far as the field, whose digits
stand at the position and have the value that is reported. -/
theorem error_position_meaningful {f : Format} {text : String} {e : ReadError}
    (h : f.read text = .error e) :
    (text = "" → e.position = 0) ∧ (text ≠ "" → e.position < text.length) ∧
    (∀ p rest, e = .trailing p rest →
      ∃ parts, f.read (String.ofList (text.toList.take p)) = .ok parts) ∧
    (∀ p rest s, e = .unmatched p rest s → 0 < p →
      ∃ parts, f.read (String.ofList (text.toList.take p)) = .ok parts) ∧
    ∀ p k n, e = .outOfRange p k n →
      (∃ x, text.toList[p]? = some x ∧ x.isDigit = true) ∧
      ∃ (before : Cutting) (g : Field) (digits rest : List Char),
        before.atoms ++ [.field g] <+: f.segments.flatten ∧ (∀ q ∈ before, q.1.Fits q.2) ∧
        before.text.length = p ∧ text.toList = before.text ++ digits ++ rest ∧
        (1 ≤ digits.length ∧ digits.length ≤ g.maxWidth) ∧ digits.all Char.isDigit = true ∧
        k = g.component ∧ n = g.value digits ∧ ¬ g.component.InRange (g.value digits) := by
  have hmisread := Format.misread_of_read h
  have hposition := hmisread.position_lt
  rw [String.toList_eq_nil_iff, String.length_toList] at hposition
  refine ⟨fun hempty => ?_, fun hne => ?_, ?_, ?_, ?_⟩
  · rcases hposition with ⟨-, hzero⟩ | hlt
    · exact hzero
    · rw [hempty] at hlt
      exact absurd hlt (Nat.not_lt_zero _)
  · exact hposition.resolve_left fun hempty => hne hempty.1
  · rintro p rest rfl
    exact hmisread.exists_read_of_trailing
  · rintro p rest s rfl
    exact hmisread.exists_read_of_unmatched
  · rintro p k n rfl
    refine ⟨hmisread.exists_digit_of_outOfRange, ?_⟩
    cases hmisread with
    | outOfRange hchain hbefore htext hdigits hrange =>
      obtain ⟨rfl, rfl, hfits⟩ := hbefore
      exact ⟨_, _, _, _, hchain, hfits, rfl, htext, hdigits.1, hdigits.2, rfl, rfl, hrange⟩

/-- A separator is missing, a month is none, and a year is followed by a letter. -/
theorem error_position_meaningful_german :
    Format.german.read "31.1x" = .error (.unmatched 4 ['x'] [.literal ['.']]) ∧
    (∃ parts, Format.german.read "31.1" = .ok parts) ∧
    Format.german.read "31.13" = .error (.outOfRange 3 .month 13) ∧ 3 < "31.13".length ∧
    Format.german.read "31.1.2015x" = .error (.trailing 9 ['x']) ∧
    ∃ parts, Format.german.read "31.1.2015" = .ok parts := by
  have hunmatched : Format.german.read "31.1x" = .error (.unmatched 4 ['x'] [.literal ['.']]) := rfl
  have hrange : Format.german.read "31.13" = .error (.outOfRange 3 .month 13) := rfl
  have htrailing : Format.german.read "31.1.2015x" = .error (.trailing 9 ['x']) := rfl
  refine ⟨hunmatched, ?_, hrange, ?_, htrailing, ?_⟩
  · exact (error_position_meaningful hunmatched).2.2.2.1 _ _ _ rfl (by decide)
  · exact (error_position_meaningful hrange).2.1 (by decide)
  · exact (error_position_meaningful htrailing).2.2.1 _ _ rfl

end DatePrompt
