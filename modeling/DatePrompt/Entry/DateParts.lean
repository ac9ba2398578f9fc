import DatePrompt.Template.Shape

/-!
# Date parts

What an entry says about a date: each component may be given or missing. The numbers are not
checked against the calendar.
-/

namespace DatePrompt

/-- A date of which some components may be missing. -/
structure DateParts where
  day : Option Int
  month : Option Int
  year : Option Int
  deriving DecidableEq, Repr

namespace DateParts

def empty : DateParts := ⟨none, none, none⟩

def get? (p : DateParts) : Component → Option Int
  | .day => p.day
  | .month => p.month
  | .year => p.year

def set (p : DateParts) (c : Component) (n : Int) : DateParts :=
  match c with
  | .day => { p with day := some n }
  | .month => { p with month := some n }
  | .year => { p with year := some n }

@[simp] theorem get?_empty (c : Component) : empty.get? c = none := by cases c <;> rfl

theorem get?_set (p : DateParts) (c d : Component) (n : Int) :
    (p.set c n).get? d = if c = d then some n else p.get? d := by
  cases c <;> cases d <;> simp [set, get?]

theorem ext_get? {p q : DateParts} (h : ∀ c, p.get? c = q.get? c) : p = q := by
  cases p; cases q
  simpa [get?] using And.intro (h .day) (And.intro (h .month) (h .year))

/-- The components that are given. -/
def shape (p : DateParts) : Shape := ⟨p.day.isSome, p.month.isSome, p.year.isSome⟩

theorem has_shape (p : DateParts) (c : Component) : p.shape.has c = (p.get? c).isSome := by
  cases c <;> rfl

theorem shape_set (p : DateParts) (c : Component) (n : Int) :
    (p.set c n).shape = p.shape.add c := by
  cases c <;> rfl

theorem completable_of_day (day : Int) (month? : Option Int) :
    (DateParts.mk (some day) month? none).shape.Completable :=
  Shape.completable_iff.mpr ⟨rfl, fun h => by cases h⟩

theorem completable_of_all (day month year : Int) :
    (DateParts.mk (some day) (some month) (some year)).shape.Completable :=
  Shape.completable_iff.mpr ⟨rfl, fun _ => rfl⟩

end DateParts

end DatePrompt
