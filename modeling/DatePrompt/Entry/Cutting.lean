import DatePrompt.Entry.DateParts
import DatePrompt.Template.Format
import DatePrompt.Text.Decimal
import DatePrompt.Text.DigitRow

/-!
# Cuttings

An entry is read by cutting it into pieces, one for each atom of the head and of some of the
groups. `Cuts` says which cuttings of a text there are along a format, without any order;
`Format.cuttings` lists them, the preferred ones first, by patterns of digits that leave no room
for a value out of range. A year written short is read with the century, so two digits are the
preferred width of a short year.
-/

namespace DatePrompt

/-- The year that stands for a short year of zero. -/
def shortYearBase : Nat := 2000

/-- The value that a run of digits has in a field: a short year of one or two digits counts from
`shortYearBase`, and one of more digits is the year itself. -/
def Field.value (f : Field) (digits : List Char) : Nat :=
  if f = .shortYear ∧ digits.length ≤ 2 then shortYearBase + decimalValue digits
  else decimalValue digits

/-- Whether a piece of text is what the atom stands for. -/
def Atom.Fits : Atom → List Char → Prop
  | literal t, piece => piece = t
  | field f, piece => (1 ≤ piece.length ∧ piece.length ≤ f.maxWidth) ∧
      piece.all Char.isDigit = true ∧ f.component.InRange (f.value piece)

instance (a : Atom) (piece : List Char) : Decidable (a.Fits piece) := by
  cases a <;> unfold Atom.Fits <;> infer_instance

/-- Atoms with the pieces of text that they cover. -/
abbrev Cutting := List (Atom × List Char)

namespace Cutting

def atoms (c : Cutting) : List Atom := c.map (·.1)

/-- The text that was cut. -/
def text (c : Cutting) : List Char := c.flatMap (·.2)

@[simp] theorem text_nil : text [] = [] := rfl
@[simp] theorem text_cons (p : Atom × List Char) (c : Cutting) :
    text (p :: c) = p.2 ++ text c := rfl
@[simp] theorem text_append (c d : Cutting) : text (c ++ d) = c.text ++ d.text :=
  List.flatMap_append

/-- The components that the fields give. -/
def parts : Cutting → DateParts
  | [] => .empty
  | (.literal _, _) :: c => parts c
  | (.field f, piece) :: c => (parts c).set f.component (f.value piece)

end Cutting

/-- The cutting covers the text along the head and a number of groups of the format, each atom
fitting its piece. -/
structure Cuts (f : Format) (text : List Char) (c : Cutting) : Prop where
  atoms : ∃ k, c.atoms = (f.head :: f.groups.take k).flatten
  text : c.text = text
  fits : ∀ p ∈ c, p.1.Fits p.2

/-! ## Listing cuttings -/

/-- The rows of digits that a field has in the range of its component: two digits before one for
day and month, a short year before a full one, and a long year as long as can be. -/
def Field.rows : Field → List DigitRow
  | day => [[.zero, .positive], [⟨'1', '2'⟩, .any], [⟨'3', '3'⟩, ⟨'0', '1'⟩], [.positive]]
  | month => [[.zero, .positive], [⟨'1', '1'⟩, ⟨'0', '2'⟩], [.positive]]
  | shortYear => [.any, .any] :: [.any] :: DigitRow.positiveRows 4 ++ DigitRow.positiveRows 3
  | longYear => [4, 3, 2, 1].flatMap DigitRow.positiveRows

/-- How a field takes its digits: the rows to try, in order. -/
structure DigitRule where
  rows : Field → List DigitRow

namespace DigitRule

/-- Only values in range. -/
def strict : DigitRule := ⟨Field.rows⟩

/-- As many digits as can be, whatever their value. -/
def greedy : DigitRule :=
  ⟨fun f => ((List.range f.maxWidth).map fun w => List.replicate (w + 1) .any).reverse⟩

end DigitRule

/-- The pieces that an atom can take off the front of the input, each with what is left. -/
def Atom.pieces (rule : DigitRule) : Atom → List Char → List (List Char × List Char)
  | literal t, input => if t.isPrefixOf input then [(t, input.drop t.length)] else []
  | field f, input => (rule.rows f).filterMap fun row =>
      if row.takes (input.take row.length) then
        some (input.take row.length, input.drop row.length)
      else none

theorem Atom.append_of_mem_pieces {rule : DigitRule} {a : Atom} {input piece rest : List Char}
    (h : (piece, rest) ∈ a.pieces rule input) : piece ++ rest = input := by
  cases a with
  | literal t =>
    by_cases ht : t.isPrefixOf input = true
    · obtain ⟨u, rfl⟩ := List.isPrefixOf_iff_prefix.mp ht
      rw [pieces, if_pos ht] at h
      cases List.mem_singleton.mp h
      rw [List.drop_left]
    · rw [pieces, if_neg ht] at h
      cases h
  | field f =>
    obtain ⟨row, _, hrow⟩ := List.mem_filterMap.mp h
    split at hrow
    · cases hrow; exact List.take_append_drop _ _
    · cases hrow

/-- The ways in which a segment can be cut off the front of the input, each with what is left. -/
def Segment.cuttings (rule : DigitRule) : Segment → List Char → List (Cutting × List Char)
  | [], input => [([], input)]
  | a :: s, input => (a.pieces rule input).flatMap fun (piece, rest) =>
      (cuttings rule s rest).map fun (c, rest) => ((a, piece) :: c, rest)

theorem Segment.of_mem_cuttings {rule : DigitRule} {s : Segment} {input rest : List Char}
    {c : Cutting} (h : (c, rest) ∈ s.cuttings rule input) :
    c.atoms = s ∧ c.text ++ rest = input := by
  induction s generalizing input c with
  | nil => cases List.mem_singleton.mp h; exact ⟨rfl, rfl⟩
  | cons a s ih =>
    obtain ⟨⟨piece, mid⟩, hp, h⟩ := List.mem_flatMap.mp h
    obtain ⟨⟨d, rest'⟩, hd, h⟩ := List.mem_map.mp h
    cases h
    obtain ⟨ha, ht⟩ := ih hd
    refine ⟨?_, ?_⟩
    · rw [← ha]; rfl
    · rw [Cutting.text_cons, List.append_assoc, ht]
      exact Atom.append_of_mem_pieces hp

/-- The ways in which groups can be cut off the input until nothing is left. Further groups are
preferred to none. -/
def groupCuttings : List Segment → List Char → List Cutting
  | [], input => if input = [] then [[]] else []
  | s :: groups, input =>
    ((Segment.cuttings .strict s input).flatMap fun (c, rest) =>
      (groupCuttings groups rest).map (c ++ ·)) ++
    if input = [] then [[]] else []

/-- All cuttings of the input along the format, the preferred ones first. -/
def Format.cuttings (f : Format) (input : List Char) : List Cutting :=
  (Segment.cuttings .strict f.head input).flatMap fun (c, rest) =>
    (groupCuttings f.groups rest).map (c ++ ·)

end DatePrompt
