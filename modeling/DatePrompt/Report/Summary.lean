import DatePrompt.Report.Basic

/-!
# The summary of a report

A report in a few lines: one line if all is well, otherwise the errors with their remedies and the
warnings.
-/

namespace DatePrompt.Report

def bullet (text : String) : String := "   • " ++ text

/-- The lines about an error. -/
def errorLines (i : Issue) : List String :=
  bullet i.message :: match i.remedy with
    | some remedy => if remedy.isEmpty then [] else ["     💡 " ++ remedy]
    | none => []

/-- The part of the summary about the errors, empty if there are none. -/
def errorPart (r : Report) : List String :=
  if r.hasErrors then
    ("❌ Date format " ++ quoted r.template.toList ++ " cannot be used:") ::
      (r.issues.filter (·.level = .error)).flatMap errorLines
  else []

/-- The part of the summary about the warnings, empty if there are none. -/
def warningPart (r : Report) : List String :=
  if r.warnings.isEmpty then []
  else "⚠️ Please check the following:" :: r.warnings.map bullet

/-- The lines of the summary. -/
def summaryLines (r : Report) : List String :=
  if r.valid ∧ r.warnings.isEmpty then
    ["✅ Date format " ++ quoted r.template.toList ++ " is valid."]
  else
    r.errorPart ++ (if r.errorPart.isEmpty ∨ r.warningPart.isEmpty then [] else [""]) ++
      r.warningPart

def summary (r : Report) : String := "\n".intercalate r.summaryLines

end DatePrompt.Report
