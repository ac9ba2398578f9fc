import DatePrompt.Template.Field

/-!
# Shapes

A shape is a set of date components. Three shapes can be completed to a date: the day, the day and
the month, and all three.
-/

namespace DatePrompt

/-- A set of date components. -/
structure Shape where
  day : Bool
  month : Bool
  year : Bool
  deriving DecidableEq, Repr

namespace Shape

def empty : Shape := ⟨false, false, false⟩
def full : Shape := ⟨true, true, true⟩

/-- Whether the component is in the shape. -/
def has (s : Shape) : Component → Bool
  | .day => s.day
  | .month => s.month
  | .year => s.year

def add (s : Shape) : Component → Shape
  | .day => { s with day := true }
  | .month => { s with month := true }
  | .year => { s with year := true }

@[simp] theorem has_empty (c : Component) : empty.has c = false := by cases c <;> rfl

theorem has_add (s : Shape) (c d : Component) : (s.add c).has d = (decide (c = d) || s.has d) := by
  cases c <;> cases d <;> simp [add, has]

theorem ext_has {s t : Shape} (h : ∀ c, s.has c = t.has c) : s = t := by
  cases s; cases t
  simpa [has] using And.intro (h .day) (And.intro (h .month) (h .year))

/-- The components of a shape, in the usual order. -/
def components (s : Shape) : List Component := Component.all.filter s.has

theorem mem_components {s : Shape} {c : Component} : c ∈ s.components ↔ s.has c = true := by
  simp [components, Component.mem_all]

/-- The shape with the given components added. -/
def addAll (s : Shape) (cs : List Component) : Shape := cs.foldl add s

theorem has_addAll (s : Shape) (cs : List Component) (c : Component) :
    (s.addAll cs).has c = true ↔ c ∈ cs ∨ s.has c = true := by
  induction cs generalizing s with
  | nil => simp [addAll]
  | cons d cs ih =>
    rw [show s.addAll (d :: cs) = (s.add d).addAll cs from rfl, ih, has_add, List.mem_cons]
    simp only [Bool.or_eq_true, decide_eq_true_eq]
    constructor
    · rintro (h | rfl | h)
      · exact .inl (.inr h)
      · exact .inl (.inl rfl)
      · exact .inr h
    · rintro ((rfl | h) | h)
      · exact .inr (.inl rfl)
      · exact .inl h
      · exact .inr (.inr h)

/-- The shapes from which a date can be found. -/
def completable : List Shape := [⟨true, false, false⟩, ⟨true, true, false⟩, full]

/-- Whether a date can be found from the shape. -/
def Completable (s : Shape) : Prop := s ∈ completable

instance : DecidablePred Completable := fun s => by unfold Completable; infer_instance

/-- A shape is completable iff it has the day, and the month whenever it has the year. -/
theorem completable_iff {s : Shape} :
    s.Completable ↔ s.day = true ∧ (s.year = true → s.month = true) := by
  obtain ⟨d, m, y⟩ := s
  cases d <;> cases m <;> cases y <;> decide

/-- The names of the components with a text between them, or a text for none. -/
def describe (s : Shape) (between none : String) : String :=
  if s = empty then none else between.intercalate (s.components.map Component.name)

end Shape

end DatePrompt
