import DatePrompt.Proofs.Printing

/-!
# Where an entry may stop

An entry ends after the head or after one of the groups, as if the format ended there. The shapes
of what can be read are therefore the shapes of the beginnings of the format, which are its stops:
`Format.mem_stops_iff`. A beginning is reached by a date printed in it with a short year. Every
field then has the width that it prefers, so that no cutting of the whole format comes before.
-/

namespace DatePrompt

namespace Format

/-- The head of a format and the first of its groups. -/
def upTo (f : Format) (k : Nat) : Format := ⟨f.head, f.groups.take k⟩

variable {f : Format}

@[simp] theorem upTo_length_groups (f : Format) : f.upTo f.groups.length = f := by
  rw [upTo, List.take_length]

/-- What is cut along a format is cut along the whole of a beginning. -/
theorem cuts_iff_upTo {text : List Char} {c : Cutting} :
    Cuts f text c ↔ ∃ k, c.Covers (f.upTo k).segments.flatten text := cuts_iff

theorem cuts_of_upTo {k : Nat} {text : List Char} {c : Cutting} (h : Cuts (f.upTo k) text c) :
    Cuts f text c := by
  obtain ⟨j, hcov⟩ := cuts_iff.mp h
  have htake : (f.upTo k).groups.take j = f.groups.take (min j k) := List.take_take
  rw [htake] at hcov
  exact cuts_iff.mpr ⟨min j k, hcov⟩

/-! ## The stops are the shapes of the beginnings -/

theorem shape_eq_addAll (f : Format) :
    f.shape = Shape.empty.addAll (Segment.components f.segments.flatten) := by
  rw [components_flatten, shape]

theorem mem_stopsFrom {seen s : Shape} {ss : List Segment} : s ∈ stopsFrom seen ss ↔
    ∃ k < ss.length, seen.addAll (Segment.components (ss.take (k + 1)).flatten) = s := by
  induction ss generalizing seen with
  | nil => simp [stopsFrom]
  | cons a ss ih =>
    have hcons : ∀ k, seen.addAll (Segment.components ((a :: ss).take (k + 1)).flatten) =
        (seen.addAll a.components).addAll (Segment.components (ss.take k).flatten) := by
      intro k
      rw [List.take_succ_cons, List.flatten_cons, Shape.addAll, Segment.components,
        Segment.fields_append, List.map_append, List.foldl_append]
      rfl
    simp only [stopsFrom, List.mem_cons, ih, hcons, List.length_cons]
    constructor
    · rintro (rfl | ⟨k, hk, rfl⟩)
      · exact ⟨0, Nat.succ_pos _, rfl⟩
      · exact ⟨k + 1, Nat.succ_lt_succ hk, rfl⟩
    · rintro ⟨k, hk, rfl⟩
      cases k with
      | zero => exact .inl rfl
      | succ k => exact .inr ⟨k, Nat.lt_of_succ_lt_succ hk, rfl⟩

theorem mem_stops_iff_upTo {s : Shape} : s ∈ f.stops ↔ ∃ k, (f.upTo k).shape = s := by
  simp only [stops, mem_stopsFrom, shape_eq_addAll]
  constructor
  · rintro ⟨k, _, rfl⟩
    exact ⟨k, rfl⟩
  · rintro ⟨k, rfl⟩
    refine ⟨min k f.groups.length, ?_, ?_⟩
    · exact Nat.lt_succ_of_le (Nat.min_le_right _ _)
    · rw [segments, List.take_succ_cons, upTo, ← List.take_eq_take_min]
      rfl

theorem shape_mem_stops (f : Format) : f.shape ∈ f.stops :=
  mem_stops_iff_upTo.mpr ⟨f.groups.length, by rw [upTo_length_groups]⟩

end Format

/-! ## What is read has the shape of a stop -/

theorem Cutting.has_shape_parts {c : Cutting} {k : Component} :
    c.parts.shape.has k = true ↔ k ∈ Segment.components c.atoms := by
  induction c with
  | nil =>
    change DateParts.empty.shape.has k = true ↔ k ∈ []
    rw [DateParts.has_shape, DateParts.get?_empty]
    simp
  | cons p c ih =>
    obtain ⟨a, piece⟩ := p
    cases a with
    | literal t => exact ih
    | field g =>
      have hcomponents : Segment.components (atoms ((.field g, piece) :: c)) =
          g.component :: Segment.components (atoms c) := rfl
      rw [parts, DateParts.shape_set, Shape.has_add, hcomponents, List.mem_cons, Bool.or_eq_true,
        decide_eq_true_eq, ih, eq_comm]

theorem Cutting.shape_parts (c : Cutting) :
    c.parts.shape = Shape.empty.addAll (Segment.components c.atoms) := by
  refine Shape.ext_has fun k => Bool.eq_iff_iff.mpr ?_
  rw [has_shape_parts, Shape.has_addAll, Shape.has_empty]
  simp

namespace Format

variable {f : Format}

theorem shape_mem_stops_of_read {text : String} {parts : DateParts}
    (h : f.read text = .ok parts) : parts.shape ∈ f.stops := by
  obtain ⟨c, hc, rfl⟩ := read_eq_ok_iff_head?.mp h
  obtain ⟨k, hcov⟩ := cuts_iff_upTo.mp (mem_cuttings_iff.mp (List.mem_of_head? hc))
  refine mem_stops_iff_upTo.mpr ⟨k, ?_⟩
  rw [Cutting.shape_parts, hcov.atoms_eq, shape_eq_addAll]

/-! ## Every stop is reached -/

/-- A date printed in a beginning of the format, with a short year, is read as its parts there. -/
theorem read_write_upTo (hlit : .literal [] ∉ f.segments.flatten) {d : Date}
    (hyear : 2000 + d.year % 100 = d.year) (k : Nat) :
    f.read ((f.upTo k).write d true) = .ok (d.partsIn (f.upTo k).shape) := by
  have hvalue : ∀ g ∈ (f.upTo k).fields, g.printedValue true d = d.component g.component := by
    intro g _
    cases g with
    | day | month | longYear => rfl
    | shortYear => exact hyear
  refine (read_eq_ok_iff hlit).mpr ⟨(f.upTo k).printed d true, ?_, parts_printed hvalue⟩
  refine isPreferred_of_not_before hlit (cuts_of_upTo cuts_printed) fun e _ => ?_
  exact Cutting.not_before_of_rank_eq_zero (fun _ _ => rank_printed_true) e

/-- Every stop is the shape in which some date is read. -/
theorem exists_read_of_mem_stops (hlit : .literal [] ∉ f.segments.flatten) {s : Shape}
    (hs : s ∈ f.stops) : ∃ text d, f.read text = .ok (Date.partsIn d s) := by
  obtain ⟨k, rfl⟩ := mem_stops_iff_upTo.mp hs
  exact ⟨_, ⟨2000, 1, 1, by decide⟩, read_write_upTo hlit rfl k⟩

/-- The stops of a format are the shapes of what can be read. -/
theorem mem_stops_iff (hlit : .literal [] ∉ f.segments.flatten) {s : Shape} :
    s ∈ f.stops ↔ ∃ text parts, f.read text = .ok parts ∧ parts.shape = s := by
  constructor
  · intro hs
    obtain ⟨text, d, hread⟩ := exists_read_of_mem_stops hlit hs
    exact ⟨text, _, hread, d.shape_partsIn s⟩
  · rintro ⟨text, parts, hread, rfl⟩
    exact shape_mem_stops_of_read hread

/-- Some entry means a date iff some stop can be completed. -/
theorem exists_resolve_eq_ok_iff (hlit : .literal [] ∉ f.segments.flatten) :
    (∃ text reference d, f.resolve text reference = .ok d) ↔ ∃ s ∈ f.stops, s.Completable := by
  constructor
  · rintro ⟨text, reference, d, h⟩
    obtain ⟨parts, hread, hcomplete⟩ := resolve_eq_ok_iff.mp h
    obtain ⟨hs, _⟩ := DateParts.complete_eq_ok_iff.mp hcomplete
    exact ⟨parts.shape, shape_mem_stops_of_read hread, hs⟩
  · rintro ⟨s, hs, hcompletable⟩
    obtain ⟨text, d, hread⟩ := exists_read_of_mem_stops hlit hs
    have hcomplete := DateParts.complete_partsIn d hcompletable
    exact ⟨text, d, d, resolve_eq_ok_iff.mpr ⟨_, hread, hcomplete⟩⟩

end Format

end DatePrompt
