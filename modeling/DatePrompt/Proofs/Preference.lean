import DatePrompt.Proofs.CuttingParts
import DatePrompt.Proofs.TemplateReading
import DatePrompt.Proofs.Walk
import Mathlib.Data.List.Flatten

/-!
# The preferred cutting

Two cuttings of an entry are compared from the left: at the first field that they cut off with
different widths, the one with the width that the field prefers comes before the other
(`Cutting.Before`). The lists of `Segment.cuttings` and `Format.cuttings` stand in that order, so
an entry is read by the cutting that comes before all others.
-/

namespace DatePrompt

/-- Whether `c` has a preferred width where it first differs from `d`. -/
inductive Cutting.Before : Cutting → Cutting → Prop
  | field {f : Field} {piece piece' : List Char} {c d : Cutting}
      (h : f.rank piece.length < f.rank piece'.length) :
      Before ((.field f, piece) :: c) ((.field f, piece') :: d)
  | cons {p : Atom × List Char} {c d : Cutting} (h : Before c d) : Before (p :: c) (p :: d)

namespace Cutting.Before

theorem append {c d : Cutting} (h : c.Before d) (u v : Cutting) : Before (c ++ u) (d ++ v) := by
  induction h with
  | field h => exact .field h
  | cons _ ih => exact .cons ih

theorem append_left (c : Cutting) {u v : Cutting} (h : u.Before v) : Before (c ++ u) (c ++ v) := by
  induction c with
  | nil => exact h
  | cons p c ih => exact .cons ih

theorem asymm {c d : Cutting} (h : c.Before d) : ¬ d.Before c := by
  induction h with
  | field h =>
    intro h'
    cases h' with
    | field h' => omega
    | cons _ => omega
  | cons h ih =>
    intro h'
    cases h' with
    | field h' => omega
    | cons h' => exact ih h'

end Cutting.Before

/-! ## The order of the lists -/

theorem Atom.field_pieces_pairwise (f : Field) (input : List Char) :
    ((Atom.field f).pieces .strict input).Pairwise fun x y =>
      f.rank x.1.length < f.rank y.1.length := by
  rw [pieces, List.pairwise_filterMap]
  refine f.rows_pairwise.imp fun {row row'} h x hx y hy => ?_
  split at hx
  · rename_i ht
    split at hy
    · rename_i ht'
      cases hx; cases hy
      rcases h with h | h
      · rwa [DigitRow.length_of_takes ht, DigitRow.length_of_takes ht']
      · exact absurd h (DigitRow.not_apart_of_takes ht ht')
    · cases hy
  · cases hx

/-- The cuttings of a segment are listed in the order of preference, each once. -/
theorem Segment.cuttings_pairwise (s : Segment) (input : List Char) :
    (s.cuttings .strict input).Pairwise fun x y => x.1.Before y.1 := by
  induction s generalizing input with
  | nil => exact List.pairwise_singleton _ _
  | cons a s ih =>
    rw [cuttings, List.pairwise_flatMap]
    constructor
    · rintro ⟨piece, rest⟩ _
      exact List.pairwise_map.mpr ((ih rest).imp .cons)
    · cases a with
      | literal t =>
        rw [Atom.pieces]
        split
        · exact List.pairwise_singleton _ _
        · exact List.Pairwise.nil
      | field f =>
        refine (Atom.field_pieces_pairwise f input).imp fun h x hx y hy => ?_
        obtain ⟨c, _, rfl⟩ := List.mem_map.mp hx
        obtain ⟨d, _, rfl⟩ := List.mem_map.mp hy
        exact .field h

/-- What is listed for a segment and then for what it leaves is in order if the latter is. -/
theorem Segment.flatMap_cuttings_pairwise (s : Segment) {next : List Char → List Cutting}
    (hnext : ∀ rest, (next rest).Pairwise fun c d => c = d ∨ c.Before d) (input : List Char) :
    ((s.cuttings .strict input).flatMap fun (u, rest) => (next rest).map (u ++ ·)).Pairwise
      fun c d => c = d ∨ c.Before d := by
  rw [List.pairwise_flatMap]
  constructor
  · rintro ⟨u, rest⟩ _
    refine List.pairwise_map.mpr ((hnext rest).imp ?_)
    rintro v v' (rfl | h)
    · exact .inl rfl
    · exact .inr (h.append_left u)
  · refine (s.cuttings_pairwise input).imp fun h x hx y hy => ?_
    obtain ⟨v, _, rfl⟩ := List.mem_map.mp hx
    obtain ⟨v', _, rfl⟩ := List.mem_map.mp hy
    exact .inr (h.append v v')

theorem Atom.ne_nil_of_fits {a : Atom} {piece : List Char} (h : a.Fits piece)
    (ha : a ≠ .literal []) : piece ≠ [] := by
  rintro rfl
  cases a with
  | literal t => exact ha (congrArg Atom.literal h.symm)
  | field f => exact absurd h.1.1 (by decide)

/-- Only the empty cutting covers the empty text, if no literal is empty. -/
theorem Cutting.Covers.eq_nil {c : Cutting} {as : List Atom} (h : c.Covers as [])
    (has : .literal [] ∉ as) : c = [] := by
  cases c with
  | nil => rfl
  | cons p c =>
    have hp : p.2 ≠ [] := by
      refine Atom.ne_nil_of_fits (h.fits p List.mem_cons_self) fun hlit => has ?_
      rw [← h.atoms_eq, ← hlit]
      exact List.mem_cons_self
    exact absurd (List.append_eq_nil_iff.mp h.text_eq).1 hp

/-- The cuttings along groups are listed in the order of preference. One that ends before an empty
segment is listed again after it. -/
theorem groupCuttings_pairwise {groups : List Segment} (hlit : .literal [] ∉ groups.flatten)
    (input : List Char) :
    (groupCuttings groups input).Pairwise fun c d => c = d ∨ c.Before d := by
  induction groups generalizing input with
  | nil =>
    rw [groupCuttings]
    split
    · exact List.pairwise_singleton _ _
    · exact List.Pairwise.nil
  | cons s groups ih =>
    have hgroups : .literal [] ∉ groups.flatten := fun h => hlit (List.mem_append_right s h)
    rw [groupCuttings, List.pairwise_append]
    refine ⟨s.flatMap_cuttings_pairwise (ih hgroups) input, ?_, ?_⟩
    · split
      · exact List.pairwise_singleton _ _
      · exact List.Pairwise.nil
    · intro c hc d hd
      split at hd
      · rename_i hinput
        subst hinput
        cases List.mem_singleton.mp hd
        have hmem : c ∈ groupCuttings (s :: groups) [] := List.mem_append_left _ hc
        obtain ⟨k, hcov⟩ := mem_groupCuttings_iff.mp hmem
        have hsub : ((s :: groups).take k).flatten ⊆ (s :: groups).flatten :=
          (List.take_sublist k _).flatten.subset
        exact .inl (hcov.eq_nil fun hk => hlit (hsub hk))
      · cases hd

theorem Format.cuttings_pairwise {f : Format} (hlit : .literal [] ∉ f.segments.flatten)
    (input : List Char) :
    (f.cuttings input).Pairwise fun c d => c = d ∨ c.Before d := by
  have hgroups : .literal [] ∉ f.groups.flatten := fun h => hlit (List.mem_append_right f.head h)
  rw [cuttings]
  exact f.head.flatMap_cuttings_pairwise (groupCuttings_pairwise hgroups) input

/-! ## The cutting that an entry is read by -/

/-- A cutting of the text that comes before all its other cuttings. -/
structure Format.IsPreferred (f : Format) (text : List Char) (c : Cutting) : Prop where
  cuts : Cuts f text c
  before : ∀ d, Cuts f text d → d = c ∨ c.Before d

namespace Format

theorem IsPreferred.unique {f : Format} {text : List Char} {c d : Cutting}
    (hc : f.IsPreferred text c) (hd : f.IsPreferred text d) : c = d := by
  rcases hc.before d hd.cuts with h | h
  · exact h.symm
  · rcases hd.before c hc.cuts with h' | h'
    · exact h'
    · exact absurd h' h.asymm

theorem isPreferred_of_head? {f : Format} (hlit : .literal [] ∉ f.segments.flatten)
    {text : List Char} {c : Cutting} (h : (f.cuttings text).head? = some c) :
    f.IsPreferred text c := by
  obtain ⟨rest, hlist⟩ := List.head?_eq_some_iff.mp h
  have hpair := cuttings_pairwise hlit text
  rw [hlist, List.pairwise_cons] at hpair
  refine ⟨mem_cuttings_iff.mp (List.mem_of_head? h), fun d hd => ?_⟩
  rw [← mem_cuttings_iff, hlist, List.mem_cons] at hd
  rcases hd with rfl | hd
  · exact .inl rfl
  · rcases hpair.1 d hd with rfl | hbefore
    · exact .inl rfl
    · exact .inr hbefore

/-- An entry that has a cutting is read by the first that is listed. -/
theorem read_eq_ok_iff_head? {f : Format} {text : String} {parts : DateParts} :
    f.read text = .ok parts ↔
      ∃ c, (f.cuttings text.toList).head? = some c ∧ c.parts = parts := by
  rw [read]
  split
  · rename_i c hhead
    simp only [Except.ok.injEq, hhead, Option.some.injEq, exists_eq_left']
  · rename_i hnone
    obtain ⟨e, he⟩ := exists_walk_eq_error (List.head?_eq_none_iff.mp hnone)
    simp [he, hnone, Except.map]

theorem exists_read_eq_ok_iff {f : Format} {text : String} :
    (∃ parts, f.read text = .ok parts) ↔ ∃ c, Cuts f text.toList c := by
  simp only [read_eq_ok_iff_head?, ← mem_cuttings_iff]
  constructor
  · rintro ⟨_, c, hc, _⟩
    exact ⟨c, List.mem_of_head? hc⟩
  · rintro ⟨c, hc⟩
    obtain ⟨d, hd⟩ := Option.isSome_iff_exists.mp (List.isSome_head?.mpr (List.ne_nil_of_mem hc))
    exact ⟨d.parts, d, hd, rfl⟩

theorem read_eq_ok_iff {f : Format} (hlit : .literal [] ∉ f.segments.flatten) {text : String}
    {parts : DateParts} :
    f.read text = .ok parts ↔ ∃ c, f.IsPreferred text.toList c ∧ c.parts = parts := by
  rw [read_eq_ok_iff_head?]
  constructor
  · rintro ⟨c, hc, hparts⟩
    exact ⟨c, isPreferred_of_head? hlit hc, hparts⟩
  · rintro ⟨c, hc, hparts⟩
    obtain ⟨_, hread⟩ := exists_read_eq_ok_iff.mpr ⟨c, hc.cuts⟩
    obtain ⟨d, hd, _⟩ := read_eq_ok_iff_head?.mp hread
    cases hc.unique (isPreferred_of_head? hlit hd)
    exact ⟨c, hd, hparts⟩

theorem isPreferred_of_not_before {f : Format} (hlit : .literal [] ∉ f.segments.flatten)
    {text : List Char} {c : Cutting} (hc : Cuts f text c)
    (h : ∀ e, Cuts f text e → ¬ e.Before c) : f.IsPreferred text c := by
  have hne : f.cuttings text ≠ [] := List.ne_nil_of_mem (mem_cuttings_iff.mpr hc)
  obtain ⟨e, he⟩ := Option.isSome_iff_exists.mp (List.isSome_head?.mpr hne)
  have hpreferred := isPreferred_of_head? hlit he
  rcases hpreferred.before c hc with rfl | hbefore
  · exact hpreferred
  · exact absurd hbefore (h e hpreferred.cuts)

end Format

/-- An entry is read iff it has a cutting, and then by the only one that comes before all others: a
component is given iff a field of the cutting asks for it, and is the value of the piece there. -/
theorem read_by_preferred_cutting {template : String} {f : Format}
    (h : Format.ofTemplate template = .ok f) (text : String) :
    ((∃ parts, f.read text = .ok parts) ↔ ∃ c, Cuts f text.toList c) ∧
    (∀ parts, f.read text = .ok parts ↔ ∃ c, f.IsPreferred text.toList c ∧ c.parts = parts) ∧
    (∀ c d, f.IsPreferred text.toList c → f.IsPreferred text.toList d → c = d) ∧
    ∀ c, Cuts f text.toList c → ∀ k n, c.parts.get? k = some n ↔
      ∃ g piece, (.field g, piece) ∈ c ∧ g.component = k ∧ (g.value piece : Int) = n := by
  have hwf := (Format.ofTemplate_eq_ok_iff.mp h).1
  refine ⟨Format.exists_read_eq_ok_iff, ?_, fun c d hc hd => hc.unique hd, ?_⟩
  · intro parts
    exact Format.read_eq_ok_iff hwf.literal_nil_notMem
  · intro c hc k n
    exact Cutting.get?_parts_eq_some_iff (hc.nodup_components hwf)

/-- Of the cuttings `15|02|01|1` and `150|2|01|1` the first is preferred. -/
theorem read_by_preferred_cutting_compact :
    ∃ f, Format.ofTemplate "%y%m[%d1]" = .ok f ∧
      ∃ c, f.IsPreferred "1502011".toList c ∧ c.parts = ⟨some 1, some 2, some 2015⟩ ∧
        ∃ g piece, (.field g, piece) ∈ c ∧ g.component = .year ∧ (g.value piece : Int) = 2015 := by
  have hf : Format.ofTemplate "%y%m[%d1]" =
      .ok ⟨[.field .shortYear, .field .month], [[.field .day, .literal ['1']]]⟩ := rfl
  obtain ⟨-, hread, -, hparts⟩ := read_by_preferred_cutting hf "1502011"
  obtain ⟨c, hc, hcparts⟩ := (hread ⟨some 1, some 2, some 2015⟩).mp rfl
  exact ⟨_, hf, c, hc, hcparts, (hparts c hc.cuts .year 2015).mp (by rw [hcparts]; rfl)⟩

end DatePrompt
