import DatePrompt.Template.Error
import DatePrompt.Template.Shape

/-!
# Issues of a template

What a report has to say about a template: the findings, and the issues in which they are told.
-/

namespace DatePrompt

/-- How grave an issue is. -/
inductive IssueLevel
  | error
  | warning
  | info
  deriving DecidableEq, Repr

namespace IssueLevel

def all : List IssueLevel := [error, warning, info]

def name : IssueLevel → String
  | error => "error"
  | warning => "warning"
  | info => "info"

def ofName? (text : String) : Option IssueLevel := all.find? (·.name = text)

theorem ofName?_name (l : IssueLevel) : ofName? l.name = some l := by cases l <;> decide

/-- What is said of a text that names no level. -/
def refusal : String := "String should match pattern '^(error|warning|info)$'"

end IssueLevel

/-- A remark on a template, with the part it is about and, where there is one, a way to mend it. -/
structure Issue where
  subject : String
  kind : String
  message : String
  level : IssueLevel
  remedy : Option String
  deriving DecidableEq, Repr

/-- What can be found about a template. -/
inductive Finding
  | malformed (e : TemplateError)
  /-- An entry that ends after the segment with this index has a shape that is not completable. -/
  | deadEnd (index : Nat) (shape : Shape)
  /-- No entry at all has a completable shape. -/
  | unusable
  | missing (component : Component)
  /-- The year is written short. -/
  | shortYear
  deriving DecidableEq, Repr

namespace Finding

def level : Finding → IssueLevel
  | malformed _ | unusable => .error
  | deadEnd .. | missing _ => .warning
  | shortYear => .info

def message : Finding → String
  | malformed e => e.message
  | deadEnd index shape => s!"Input ending after segment {index} supplies " ++
      shape.describe " + " "no fields" ++ ", which cannot be completed to a date"
  | unusable => "No input accepted by this template can be completed to a date"
  | missing c => s!"Template has no {c.name} field; printed dates will not read back unchanged"
  | shortYear =>
    "Two-digit years are read as 20yy; dates outside 2000-2099 are printed with four digits"

def subject : Finding → String
  | malformed _ => "template"
  | deadEnd .. | unusable => "segments"
  | missing c => c.name
  | shortYear => "year"

def kind : Finding → String
  | malformed _ => "syntax"
  | deadEnd .. => "unreachable_shape"
  | unusable => "no_completable_shape"
  | missing _ => "missing_field"
  | shortYear => "short_year"

def remedy : Finding → Option String
  | malformed e => some <| match e.fault with
    | .unknownField _ => "Use %d (day), %m (month), %y (two-digit year) or %Y (full year)"
    | .duplicateField _ => "Keep a single field for each of day, month and year"
    | _ => "Check that every '[' has a matching ']' at the end of the template"
  | deadEnd .. => some "Put the day first, then the month, then the year"
  | unusable => some "Include a %d field in the mandatory part of the template"
  | missing c => some s!"Add a {c.name} field"
  | shortYear => none

def issue (f : Finding) : Issue := ⟨f.subject, f.kind, f.message, f.level, f.remedy⟩

end Finding

end DatePrompt
