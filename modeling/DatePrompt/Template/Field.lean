/-!
# Fields

A date has three components. A template asks for a component by a field; the year can be asked for
in two ways.
-/

namespace DatePrompt

/-- What a date is made of. -/
inductive Component
  | day
  | month
  | year
  deriving DecidableEq, Repr

namespace Component

/-- All components, the order in which lists of them are given. -/
def all : List Component := [day, month, year]

theorem mem_all (c : Component) : c ∈ all := by cases c <;> decide

def name : Component → String
  | day => "day"
  | month => "month"
  | year => "year"

/-- The name at the beginning of a sentence. -/
def title : Component → String
  | day => "Day"
  | month => "Month"
  | year => "Year"

/-- The least and the greatest value that a component can have on its own. -/
def low (_ : Component) : Int := 1

def high : Component → Int
  | day => 31
  | month => 12
  | year => 9999

/-- The values from `low` to `high`. -/
def InRange (c : Component) (n : Int) : Prop := c.low ≤ n ∧ n ≤ c.high

instance (c : Component) (n : Int) : Decidable (c.InRange n) := by
  unfold InRange; infer_instance

/-- What is said of a value out of range. -/
def outsideText (c : Component) (n : Int) : String := s!"{c.title} {n} is outside {c.low}-{c.high}"

end Component

/-- A place in a template that one component fills. -/
inductive Field
  | day
  | month
  | shortYear
  | longYear
  deriving DecidableEq, Repr

namespace Field

def all : List Field := [day, month, shortYear, longYear]

def name : Field → String
  | day => "day"
  | month => "month"
  | shortYear => "short_year"
  | longYear => "long_year"

def component : Field → Component
  | day => .day
  | month => .month
  | shortYear | longYear => .year

/-- The most digits that are read for the field. -/
def maxWidth (f : Field) : Nat :=
  match f.component with
  | .day | .month => 2
  | .year => 4

/-- The letter that stands for the field after a percent sign. -/
def marker : Field → Char
  | day => 'd'
  | month => 'm'
  | shortYear => 'y'
  | longYear => 'Y'

def ofMarker? (c : Char) : Option Field := all.find? (·.marker = c)

theorem ofMarker?_marker (f : Field) : ofMarker? f.marker = some f := by cases f <;> decide

theorem marker_of_ofMarker? {c : Char} {f : Field} (h : ofMarker? c = some f) : f.marker = c := by
  simpa using List.find?_some h

end Field

end DatePrompt
