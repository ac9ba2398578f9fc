/-!
# Rows of digits

A pattern for a run of digits says for each place which digits may stand there. `positiveRows`
lists the patterns of the numerals of a width that do not denote zero, by the place of their first
digit that is not zero.
-/

namespace DatePrompt

/-- The digits from one to another. -/
structure DigitSpan where
  first : Char
  last : Char
  deriving DecidableEq, Repr

namespace DigitSpan

def Has (s : DigitSpan) (c : Char) : Prop := s.first ≤ c ∧ c ≤ s.last

instance (s : DigitSpan) (c : Char) : Decidable (s.Has c) := by unfold Has; infer_instance

def zero : DigitSpan := ⟨'0', '0'⟩
def positive : DigitSpan := ⟨'1', '9'⟩
def any : DigitSpan := ⟨'0', '9'⟩

theorem has_iff {s : DigitSpan} {c : Char} :
    s.Has c ↔ s.first.toNat ≤ c.toNat ∧ c.toNat ≤ s.last.toNat := Iff.rfl

end DigitSpan

/-- What may stand at each place of a run of digits. -/
abbrev DigitRow := List DigitSpan

namespace DigitRow

/-- Whether the text as a whole is a run of the row. -/
def takes : DigitRow → List Char → Bool
  | [], [] => true
  | s :: row, c :: text => decide (s.Has c) && takes row text
  | _, _ => false

@[simp] theorem takes_nil {text : List Char} : takes [] text = true ↔ text = [] := by
  cases text <;> simp [takes]

@[simp] theorem takes_cons_nil (s : DigitSpan) (row : DigitRow) : takes (s :: row) [] = false := rfl

@[simp] theorem takes_cons {s : DigitSpan} {row : DigitRow} {c : Char} {text : List Char} :
    takes (s :: row) (c :: text) = true ↔ s.Has c ∧ row.takes text = true := by
  simp [takes]

theorem length_of_takes {row : DigitRow} {text : List Char} (h : row.takes text = true) :
    text.length = row.length := by
  induction row generalizing text with
  | nil => cases takes_nil.mp h; rfl
  | cons s row ih =>
    cases text with
    | nil => cases h
    | cons c text => rw [List.length_cons, List.length_cons, ih (takes_cons.mp h).2]

/-- The rows of any `w` digits of which not all are zero. -/
def positiveRows (w : Nat) : List DigitRow :=
  (List.range w).map fun zeros =>
    List.replicate zeros .zero ++ .positive :: List.replicate (w - zeros - 1) .any

end DigitRow

end DatePrompt
