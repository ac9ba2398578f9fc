import DatePrompt.Entry.Resolution
import DatePrompt.Text.Blank

/-!
# Journal dates

The journal writes a date as four digits of year and one or two each of month and day, with the
same separator twice: a hyphen, a slash or a dot. An entry that does not resolve in the format may
still be such a date.
-/

namespace DatePrompt

def IsSeparator (c : Char) : Prop := c = '-' ∨ c = '/' ∨ c = '.'

instance : DecidablePred IsSeparator := fun _ => by unfold IsSeparator; infer_instance

/-- Why a text is no journal date. -/
inductive JournalError
  | malformed (text : String)
  | date (e : DateError)
  deriving DecidableEq

def JournalError.message : JournalError → String
  | malformed text => quoted text.toList ++ " is not a journal date"
  | date e => e.message

/-- The value of one or two digits. -/
def shortNumber? (ds : List Char) : Option Nat :=
  if (1 ≤ ds.length ∧ ds.length ≤ 2) ∧ ds.all Char.isDigit then some (decimalValue ds) else none

/-- Year, month and day of a text in the journal's form. -/
def journalParts? : List Char → Option (Nat × Nat × Nat)
  | y₁ :: y₂ :: y₃ :: y₄ :: sep :: rest =>
    if [y₁, y₂, y₃, y₄].all Char.isDigit ∧ IsSeparator sep then
      match rest.dropWhile Char.isDigit with
      | sep' :: day =>
        if sep' = sep then do
          let m ← shortNumber? (rest.takeWhile Char.isDigit)
          let d ← shortNumber? day
          return (decimalValue [y₁, y₂, y₃, y₄], m, d)
        else none
      | [] => none
    else none
  | _ => none

/-- The date that a text means in the journal, blanks around it aside. A month or a day out of range
makes a date that does not exist here, and is not left to completion, which would refuse the value
alone. -/
def journalDate (text : String) : Except JournalError Date :=
  match journalParts? (strip text.toList) with
  | none => .error (.malformed text)
  | some (y, m, d) =>
    if Component.month.InRange m ∧ Component.day.InRange d then
      match DateParts.complete ⟨some d, some m, some y⟩ .last with
      | .ok date => .ok date
      | .error e => .error (.date e)
    else .error (.date (.invalid y m d))

/-- A date found for an entry, and whether it was found as a journal date. -/
structure Resolution where
  date : Date
  journal : Bool
  deriving DecidableEq

/-- The date that an entry means in the format or, failing that, in the journal. If it means none,
the error is that of the format. -/
def Format.resolveOrJournal (f : Format) (text : String) (reference : Date) :
    Except EntryError Resolution :=
  match f.resolve text reference with
  | .ok d => .ok ⟨d, false⟩
  | .error e => match journalDate text with
    | .ok d => .ok ⟨d, true⟩
    | .error _ => .error e

end DatePrompt
