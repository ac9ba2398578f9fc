import DatePrompt.Template.Shape

/-!
# Formats

A format is a chain of segments. The head is always present in an entry; each further segment is an
optional group that stands at the end of the one before it, so what an entry may hold is the head
and a number of the groups, from the left. A template is the written form: a group stands in
brackets, a field is a percent sign with a letter, all else is literal.
-/

namespace DatePrompt

/-- What stands in a segment: characters that stand for themselves, or a field. -/
inductive Atom
  | literal (text : List Char)
  | field (f : Field)
  deriving DecidableEq, Repr

def Atom.field? : Atom → Option Field
  | literal _ => none
  | field f => some f

/-- The written form of an atom. -/
def Atom.source : Atom → List Char
  | literal text => text
  | field f => ['%', f.marker]

/-- The part of an entry that is present as a whole or not at all. -/
abbrev Segment := List Atom

namespace Segment

def fields (s : Segment) : List Field := s.filterMap Atom.field?

def components (s : Segment) : List Component := s.fields.map Field.component

def source (s : Segment) : List Char := s.flatMap Atom.source

theorem fields_append (s t : Segment) : fields (s ++ t) = s.fields ++ t.fields :=
  List.filterMap_append

end Segment

/-- A chain of segments: the head and the optional groups after it. -/
structure Format where
  head : Segment
  groups : List Segment
  deriving DecidableEq, Repr

namespace Format

def segments (f : Format) : List Segment := f.head :: f.groups

theorem segments_injective {f g : Format} (h : f.segments = g.segments) : f = g := by
  cases f; cases g; simpa [segments] using h

/-- The fields of all segments, in the order of the template. -/
def fields (f : Format) : List Field := f.segments.flatMap Segment.fields

/-- The components that the fields ask for. -/
def shape (f : Format) : Shape := Shape.empty.addAll (f.fields.map Field.component)

theorem has_shape {f : Format} {c : Component} :
    f.shape.has c = true ↔ ∃ fd ∈ f.fields, fd.component = c := by
  simp [shape, Shape.has_addAll]

/-- The shapes that the entry has when it ends after each of the segments, given the shape of what
stands before them. -/
def stopsFrom (seen : Shape) : List Segment → List Shape
  | [] => []
  | s :: rest => let now := seen.addAll s.components; now :: stopsFrom now rest

/-- The shape of an entry that ends after the head, after the first group, and so on. -/
def stops (f : Format) : List Shape := stopsFrom .empty f.segments

/-- The written form of the format: every group opens where it begins and all close at the end. -/
def source (f : Format) : List Char :=
  f.head.source ++ f.groups.flatMap (fun s => '[' :: s.source) ++
    List.replicate f.groups.length ']'

/-- The template of the format. -/
def template (f : Format) : String := String.ofList f.source

/-- Day, month and year with dots, the parts after the day being optional and the year short. -/
def german : Format :=
  ⟨[.field .day], [[.literal ['.']], [.field .month], [.literal ['.']], [.field .shortYear]]⟩

end Format

/-! ## Well-formed formats -/

/-- The characters that mean something in a template. -/
def IsSpecial (c : Char) : Prop := c = '%' ∨ c = '[' ∨ c = ']'

instance : DecidablePred IsSpecial := fun _ => by unfold IsSpecial; infer_instance

/-- Literals are not empty, hold no special character, and do not touch. -/
def Segment.WellFormed : Segment → Prop
  | [] => True
  | .field _ :: s => WellFormed s
  | .literal t :: s => (t ≠ [] ∧ ∀ c ∈ t, ¬ IsSpecial c) ∧
      (∀ u s', s ≠ .literal u :: s') ∧ WellFormed s

/-- Every segment is well formed and no component is asked for twice. -/
def Format.WellFormed (f : Format) : Prop :=
  (∀ s ∈ f.segments, s.WellFormed) ∧ (f.fields.map Field.component).Nodup

end DatePrompt
