import DatePrompt.Report.Issue
import DatePrompt.Template.Reading

/-!
# The report on a template

A template is examined in two steps. It has to be the written form of a format, and some entry of
the format has to be completable to a date. Beyond that the report warns of entries that are not,
and of components whose absence keeps printed dates from reading back.
-/

namespace DatePrompt

/-- The stops whose shape is not completable, each shape where it first occurs: the stops from an
index on, some shapes being reported already. -/
def deadEndsFrom (index : Nat) (reported : List Shape) : List Shape → List Finding
  | [] => []
  | s :: rest =>
    if s.Completable ∨ s ∈ reported then deadEndsFrom (index + 1) reported rest
    else .deadEnd index s :: deadEndsFrom (index + 1) (s :: reported) rest

/-- The findings about a format, in the order in which they are told. -/
def Format.findings (f : Format) : List Finding :=
  deadEndsFrom 0 [] f.stops ++
    (if f.stops.any (·.Completable) then [] else [.unusable]) ++
    (Component.all.filter (! f.shape.has ·)).map .missing ++
    (if Field.shortYear ∈ f.fields then [.shortYear] else [])

/-- What the operator is told about a template. -/
structure Report where
  template : String
  /-- The template is well formed. -/
  compiles : Bool
  /-- Some entry is completable. -/
  usable : Bool
  /-- Both. -/
  valid : Bool
  /-- Printed dates read back. -/
  roundTrips : Bool
  issues : List Issue
  warnings : List String
  deriving DecidableEq, Repr

namespace Report

/-- The messages of the issues of a level. -/
def messagesAt (level : IssueLevel) (issues : List Issue) : List String :=
  (issues.filter (·.level = level)).map (·.message)

def errorCount (r : Report) : Nat := r.issues.countP (·.level = .error)

def hasErrors (r : Report) : Bool := r.issues.any (·.level = .error)

/-- The messages of the errors. -/
def errors (r : Report) : List String := messagesAt .error r.issues

/-- The report on a well-formed template and its format. -/
def ofFormat (template : String) (f : Format) : Report :=
  let issues := f.findings.map Finding.issue
  let usable := ! issues.any (·.level = .error)
  { template
    compiles := true
    usable
    valid := usable
    roundTrips := usable && f.shape = .full
    issues
    warnings := messagesAt .warning issues }

/-- The report on a malformed template. -/
def ofError (e : TemplateError) : Report where
  template := e.template
  compiles := false
  usable := false
  valid := false
  roundTrips := false
  issues := [(Finding.malformed e).issue]
  warnings := []

def ofTemplate (template : String) : Report :=
  match Format.ofTemplate template with
  | .ok f => ofFormat template f
  | .error e => ofError e

end Report

end DatePrompt
