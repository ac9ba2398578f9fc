import DatePrompt.Template.Field
import DatePrompt.Text.Quoted

/-!
# Template errors

What can be wrong with a template, where, and in which words it is told.
-/

namespace DatePrompt

/-- A way in which a template goes wrong. -/
inductive TemplateFault
  /-- A percent sign is the last character. -/
  | dangling
  /-- Something else than a closing bracket follows a closing bracket. -/
  | afterGroup
  /-- A bracket closes that was never opened. -/
  | unmatchedClose
  /-- A bracket is still open at the end. -/
  | unclosedOpen
  /-- The letter stands for no field. -/
  | unknownField (marker : Char)
  /-- The component has a field already. -/
  | duplicateField (component : Component)
  deriving DecidableEq, Repr

def TemplateFault.message : TemplateFault → String
  | dangling => "Dangling '%' at end of template"
  | afterGroup => "Nothing may follow an optional group except ']'"
  | unmatchedClose => "Unmatched ']'"
  | unclosedOpen => "Unclosed '['"
  | unknownField marker => "Unknown field marker '%" ++ marker.toString ++ "'"
  | duplicateField component => s!"Field for {component.name} appears more than once"

/-- A template that is not the written form of any format. -/
structure TemplateError where
  template : String
  position : Nat
  fault : TemplateFault
  deriving DecidableEq, Repr

def TemplateError.message (e : TemplateError) : String :=
  s!"{e.fault.message} (at position {e.position} in " ++ quoted e.template.toList ++ ")"

/-- Why a template is refused: it is malformed, or no entry in it can be completed to a date. -/
inductive FormatError
  | malformed (e : TemplateError)
  | unusable (template : String) (reasons : List String)
  deriving DecidableEq, Repr

namespace FormatError

def message : FormatError → String
  | malformed e => e.message
  | unusable _ reasons => "Date format cannot be used: " ++ "; ".intercalate reasons

/-- The name that the kind of error has for the reader of a log. -/
def kind : FormatError → String
  | malformed ⟨_, _, .unknownField _⟩ => "UnknownFieldError"
  | malformed ⟨_, _, .duplicateField _⟩ => "DuplicateFieldError"
  | malformed _ => "FormatSyntaxError"
  | unusable .. => "UnusableFormatError"

end FormatError

end DatePrompt
