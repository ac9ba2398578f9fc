import DatePrompt.Calendar.Clock
import DatePrompt.Entry.Journal
import DatePrompt.Entry.Printing
import DatePrompt.Prompt.Session
import DatePrompt.Report.Basic

/-!
# The date prompt

A prompt shows today's date, tells while the user types what the entry means, resolves it in the
end, and prints dates. It knows a format, a clock, whether entries may be journal dates, and what
is to be recorded.
-/

namespace DatePrompt

structure Prompt where
  format : Format
  clock : Clock
  /-- Entries may be journal dates. -/
  journal : Bool
  audit : AuditLevel

namespace Prompt

/-! ## Opening a prompt -/

/-- Refuses a template. -/
def refuse {α : Type} (audit : AuditLevel) (template : String) (e : FormatError) : PromptM α := do
  record audit (.formatRejected template ⟨e.kind, e.message⟩)
  throw (.format e)

/-- Opens a prompt for a template that is well formed and usable. -/
def openTemplate (template : String) (clock : Clock) (journal : Bool) (audit : AuditLevel) :
    PromptM Prompt :=
  match Format.ofTemplate template with
  | .error e => refuse audit template (.malformed e)
  | .ok format => do
    let report := Report.ofFormat template format
    if report.valid then
      report.warnings.forM fun warning => record audit (.formatWarning template warning)
      record audit (.formatCompiled template format.segments.length)
      return { format, clock, journal, audit }
    else refuse audit template (.unusable template report.errors)

/-- Opens a prompt for a template that is well formed, whether usable or not, and records
nothing. -/
def openUnchecked (template : String) (clock : Clock) (journal : Bool) (audit : AuditLevel) :
    PromptM Prompt :=
  match Format.ofTemplate template with
  | .error e => throw (.format (.malformed e))
  | .ok format => return { format, clock, journal, audit }

/-! ## Using a prompt -/

variable (p : Prompt)

/-- Reads the clock. -/
def today : PromptM Date :=
  modifyGet fun s => (p.clock s.reads, { s with reads := s.reads + 1 })

/-- The given date, or today. -/
def referenceOr : Option Date → PromptM Date
  | some d => return d
  | none => p.today

/-- What an entry means to the prompt, seen from the reference. -/
def resolve (text : String) (reference : Date) : Except EntryError Resolution :=
  if p.journal then p.format.resolveOrJournal text reference
  else (p.format.resolve text reference).map (⟨·, false⟩)

/-- The event of an entry being resolved or refused. -/
def entryEvent (text : String) (reference : Date) (correlation : Option String) :
    Except EntryError Resolution → Event
  | .ok ⟨d, true⟩ => .journalDate text d.iso correlation
  | .ok ⟨d, false⟩ => .entryParsed text d.iso reference.iso correlation
  | .error e => .entryRejected text reference.iso ⟨e.kind, e.message⟩ correlation

/-- The date of an entry that is complete. -/
def submit (text : String) (reference : Option Date) (correlation : Option String) :
    PromptM Date := do
  let reference ← p.referenceOr reference
  let resolved := p.resolve text reference
  record p.audit (entryEvent text reference correlation resolved)
  match resolved with
  | .ok r => return r.date
  | .error e => throw (.entry e)

/-- The date that an entry means so far, if it means any. -/
def feedback (text : String) (reference : Option Date) : PromptM (Option Date) :=
  tryCatch (some <$> p.submit text reference none) fun
    | .entry _ => return none
    | e => throw e

/-- Whether the format has a short year and the year of the date is not printed short. -/
def widens (d : Date) : Bool :=
  Field.shortYear ∈ p.format.fields && ! p.format.shortYearReadsBack d

/-- The date in the format of the prompt. -/
def display (d : Date) : PromptM String := do
  let text := p.format.print d
  record p.audit <|
    if p.widens d then .shortYearWidened d.iso text p.format.template
    else .datePrinted d.iso text
  return text

/-- Today's date in the format of the prompt. -/
def propose : PromptM String := do
  let d ← p.today
  p.display d

/-- The latest day of a weekday. -/
def weekday (weekday : Int) (reference : Option Date) : PromptM Date := do
  let reference ← p.referenceOr reference
  match latestWeekday weekday reference with
  | .ok d => return d
  | .error e => throw (.weekday e)

end Prompt

end DatePrompt
