import DatePrompt.Entry.Completion
import DatePrompt.Entry.Reading

/-!
# Resolving an entry

An entry resolves to a date by reading its parts and completing them from a reference date.
-/

namespace DatePrompt

/-- Why an entry does not resolve to a date. -/
inductive EntryError
  | read (e : ReadError)
  | date (e : DateError)
  deriving DecidableEq

namespace EntryError

def message : EntryError → String
  | read e => e.message
  | date e => e.message

/-- The name that the kind of error has for the reader of a log. -/
def kind : EntryError → String
  | read e => e.kind
  | date e => e.kind

end EntryError

namespace Format

/-- The date that an entry means, seen from the reference. -/
def resolve (f : Format) (text : String) (reference : Date) : Except EntryError Date :=
  match f.read text with
  | .error e => .error (.read e)
  | .ok parts => match parts.complete reference with
    | .error e => .error (.date e)
    | .ok d => .ok d

/-- What an entry means after each keystroke, from the empty entry on. -/
def resolveKeystrokes (f : Format) (text : String) (reference : Date) :
    List (Except EntryError Date) :=
  (List.range (text.length + 1)).map fun n =>
    f.resolve (String.ofList (text.toList.take n)) reference

/-- Whether an entry means the date when that date itself is the reference. -/
def readsBack (f : Format) (text : String) (d : Date) : Bool :=
  match f.resolve text d with
  | .ok e => e = d
  | .error _ => false

end Format

end DatePrompt
