import DatePrompt.Entry.Cutting

/-!
# What the pieces of a cutting say

No component is asked for twice in a well-formed format, nor therefore in a cutting along it
(`Cuts.nodup_components`). So the parts of a cutting are just the values of its pieces, each for the
component of its field (`Cutting.get?_parts_eq_some_iff`).
-/

namespace DatePrompt

namespace Segment

theorem prefix_components {as bs : List Atom} (h : as <+: bs) : components as <+: components bs :=
  (h.filterMap Atom.field?).map Field.component

theorem component_mem_components {c : Cutting} {g : Field} {piece : List Char}
    (h : (.field g, piece) ∈ c) : g.component ∈ components c.atoms :=
  List.mem_map_of_mem (List.mem_filterMap.mpr ⟨_, List.mem_map_of_mem h, rfl⟩)

end Segment

namespace Format

variable {f : Format}

theorem components_flatten (f : Format) :
    Segment.components f.segments.flatten = f.fields.map Field.component := by
  rw [Segment.components, Segment.fields, List.filterMap_flatten, fields, List.flatMap_def]
  rfl

theorem WellFormed.nodup_of_prefix (hwf : f.WellFormed) {as : List Atom}
    (h : as <+: f.segments.flatten) : (Segment.components as).Nodup := by
  have hall := hwf.2
  rw [← components_flatten] at hall
  exact hall.sublist (Segment.prefix_components h).sublist

end Format

theorem Cuts.nodup_components {f : Format} (hwf : f.WellFormed) {text : List Char} {c : Cutting}
    (h : Cuts f text c) : (Segment.components c.atoms).Nodup := by
  obtain ⟨k, hk⟩ := h.atoms
  have hsplit : f.segments.flatten =
      (f.head :: f.groups.take k).flatten ++ (f.groups.drop k).flatten := by
    rw [← List.flatten_append, List.cons_append, List.take_append_drop, Format.segments]
  refine hwf.nodup_of_prefix ?_
  rw [hk, hsplit]
  exact List.prefix_append _ _

/-- A component has a number iff some piece of the cutting has that value in a field of the
component. -/
theorem Cutting.get?_parts_eq_some_iff {c : Cutting} (hnodup : (Segment.components c.atoms).Nodup)
    {k : Component} {n : Int} :
    c.parts.get? k = some n ↔
      ∃ g piece, (.field g, piece) ∈ c ∧ g.component = k ∧ (g.value piece : Int) = n := by
  induction c with
  | nil => simp [parts]
  | cons p c ih =>
    obtain ⟨a, q⟩ := p
    cases a with
    | literal t =>
      rw [parts, ih hnodup]
      simp
    | field g' =>
      obtain ⟨hnew, hnodup⟩ := List.nodup_cons.mp hnodup
      rw [parts, DateParts.get?_set]
      by_cases hk : g'.component = k
      · rw [if_pos hk, Option.some.injEq]
        constructor
        · intro hn
          exact ⟨g', q, List.mem_cons_self, hk, hn⟩
        · rintro ⟨g, piece, hmem, hg, rfl⟩
          rcases List.mem_cons.mp hmem with heq | hmem
          · cases heq
            rfl
          · have htwice := Segment.component_mem_components hmem
            rw [hg, ← hk] at htwice
            exact absurd htwice hnew
      · rw [if_neg hk, ih hnodup]
        constructor
        · rintro ⟨g, piece, hmem, hg⟩
          exact ⟨g, piece, List.mem_cons_of_mem _ hmem, hg⟩
        · rintro ⟨g, piece, hmem, hg, hn⟩
          rcases List.mem_cons.mp hmem with heq | hmem
          · cases heq
            exact absurd hg hk
          · exact ⟨g, piece, hmem, hg, hn⟩

/-- The parts of a cutting hold the value of each piece. -/
theorem Cuts.get?_parts {f : Format} (hwf : f.WellFormed) {text : List Char} {c : Cutting}
    (h : Cuts f text c) {g : Field} {piece : List Char} (hmem : (.field g, piece) ∈ c) :
    c.parts.get? g.component = some (g.value piece : Int) :=
  (Cutting.get?_parts_eq_some_iff (h.nodup_components hwf)).mpr ⟨g, piece, hmem, rfl, rfl⟩

end DatePrompt
