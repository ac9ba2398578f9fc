import DatePrompt.Text.Quoted

/-!
# Audit events

What the prompt records: which templates it takes, what entries resolve to, and how dates are
printed. Dates stand here as text.
-/

namespace DatePrompt

/-- How important an event is, the least first. -/
inductive LogLevel
  | debug
  | info
  | warning
  | error
  deriving DecidableEq, Repr

namespace LogLevel

def all : List LogLevel := [debug, info, warning, error]

def name : LogLevel → String
  | debug => "debug"
  | info => "info"
  | warning => "warning"
  | error => "error"

def rank : LogLevel → Nat
  | debug => 0
  | info => 1
  | warning => 2
  | error => 3

instance : LE LogLevel := ⟨fun a b => a.rank ≤ b.rank⟩

instance (a b : LogLevel) : Decidable (a ≤ b) := by
  change Decidable (a.rank ≤ b.rank); infer_instance

theorem debug_le (l : LogLevel) : debug ≤ l := Nat.zero_le _

theorem le_trans {a b c : LogLevel} (h : a ≤ b) (h' : b ≤ c) : a ≤ c := Nat.le_trans h h'

theorem le_total (a b : LogLevel) : a ≤ b ∨ b ≤ a := Nat.le_total _ _

end LogLevel

/-- An error as it is recorded: its kind and its message. -/
structure ErrorNote where
  kind : String
  message : String
  deriving DecidableEq, Repr

/-- An event of the prompt. The events of one entry may share a correlation. -/
inductive Event
  | formatCompiled (template : String) (segments : Int)
  | formatRejected (template : String) (error : ErrorNote)
  | formatWarning (template message : String)
  | entryParsed (text resolved reference : String) (correlation : Option String)
  | entryRejected (text reference : String) (error : ErrorNote) (correlation : Option String)
  | journalDate (text resolved : String) (correlation : Option String)
  | datePrinted (date text : String)
  | shortYearWidened (date text template : String)
  deriving DecidableEq, Repr

/-- The value of a detail of an event. -/
inductive Detail
  | text (s : String)
  | count (n : Int)
  deriving DecidableEq, Repr

namespace Event

def kind : Event → String
  | formatCompiled .. => "format_compiled"
  | formatRejected .. => "format_rejected"
  | formatWarning .. => "format_warning"
  | entryParsed .. => "entry_parsed"
  | entryRejected .. => "entry_rejected"
  | journalDate .. => "journal_date_fallback"
  | datePrinted .. => "date_printed"
  | shortYearWidened .. => "short_year_widened"

def level : Event → LogLevel
  | formatCompiled .. | entryParsed .. | datePrinted .. => .debug
  | entryRejected .. | journalDate .. | shortYearWidened .. => .info
  | formatWarning .. => .warning
  | formatRejected .. => .error

def correlation : Event → Option String
  | entryParsed _ _ _ c | entryRejected _ _ _ c | journalDate _ _ c => c
  | _ => none

def error : Event → Option ErrorNote
  | formatRejected _ e | entryRejected _ _ e _ => some e
  | _ => none

/-- What happened, in a sentence. -/
def description : Event → String
  | formatCompiled template _ => "Date format compiled: " ++ template
  | formatRejected template _ => "Date format rejected: " ++ template
  | formatWarning template _ => "Date format " ++ template ++ " needs attention"
  | entryParsed text resolved _ _ =>
    "Entry " ++ quoted text.toList ++ " resolved to " ++ resolved
  | entryRejected text _ _ _ => "Entry " ++ quoted text.toList ++ " rejected"
  | journalDate text resolved _ =>
    "Entry " ++ quoted text.toList ++ " read as journal date " ++ resolved
  | datePrinted date text => "Date " ++ date ++ " printed as " ++ quoted text.toList
  | shortYearWidened date text _ =>
    "Two-digit year for " ++ date ++ " is ambiguous, printed " ++ quoted text.toList

/-- The particulars of the event by name. -/
def details : Event → List (String × Detail)
  | formatCompiled template segments =>
    [("template", .text template), ("segment_count", .count segments)]
  | formatRejected template _ => [("template", .text template)]
  | formatWarning template message => [("template", .text template), ("message", .text message)]
  | entryParsed text resolved reference _ =>
    [("text", .text text), ("resolved", .text resolved), ("reference", .text reference)]
  | entryRejected text reference _ _ => [("text", .text text), ("reference", .text reference)]
  | journalDate text resolved _ => [("text", .text text), ("resolved", .text resolved)]
  | datePrinted date text => [("date", .text date), ("text", .text text)]
  | shortYearWidened date text template =>
    [("date", .text date), ("text", .text text), ("template", .text template)]

/-- The longest description that an event can be recorded with, in characters. -/
def maxDescription : Nat := 500

/-- Whether the event can be recorded. -/
def Recordable (e : Event) : Prop := e.description.length ≤ maxDescription

instance (e : Event) : Decidable e.Recordable := by unfold Recordable; infer_instance

/-- What is said of an event that cannot be recorded. -/
def refusal : String := s!"String should have at most {maxDescription} characters"

end Event

end DatePrompt
