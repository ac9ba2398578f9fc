import DatePrompt.Audit.Event
import DatePrompt.Proofs.CompletionOutcomes
import DatePrompt.Proofs.EntryErrors
import DatePrompt.Proofs.JournalDates

/-!
# What the log shows of events and errors

A reader of the log sees an event by the name of its kind and by its details (`Event.Shows`), and an
error by the name of its kind and by its text. The notes of errors are stated here for each error by
itself, for templates (`FormatError.Noted`) and for entries (`EntryError.Noted`), and the notes that
the prompt makes are proved to be these.

An error of an entry always has a text: the numbers in it were read, and a number that was read is
not too long to be written.
-/

namespace DatePrompt

/-- What the log shows of an event: the name of its kind, its details by their names, and the note
of the error that it is about, if it is about one. -/
structure Event.Shows (e : Event) (kind : String) (details : List (String × Detail))
    (error : Option ErrorNote) : Prop where
  kind_eq : e.kind = kind
  details_eq : e.details = details
  error_eq : e.error = error

/-! ## Templates -/

/-- The note of a fault, before the place of the fault is told. -/
inductive TemplateFault.Noted : TemplateFault → ErrorNote → Prop
  | dangling : Noted .dangling ⟨"FormatSyntaxError", "Dangling '%' at end of template"⟩
  | afterGroup :
      Noted .afterGroup ⟨"FormatSyntaxError", "Nothing may follow an optional group except ']'"⟩
  | unmatchedClose : Noted .unmatchedClose ⟨"FormatSyntaxError", "Unmatched ']'"⟩
  | unclosedOpen : Noted .unclosedOpen ⟨"FormatSyntaxError", "Unclosed '['"⟩
  | unknownField {marker : Char} : Noted (.unknownField marker)
      ⟨"UnknownFieldError", "Unknown field marker '%" ++ marker.toString ++ "'"⟩
  | duplicateField {c : Component} : Noted (.duplicateField c)
      ⟨"DuplicateFieldError", "Field for " ++ c.name ++ " appears more than once"⟩

/-- The note of a template that is refused: the fault with its place, or the reasons why no entry
can be completed. -/
inductive FormatError.Noted : FormatError → ErrorNote → Prop
  | malformed {template : String} {position : Nat} {fault : TemplateFault} {kind text : String}
      (h : fault.Noted ⟨kind, text⟩) : Noted (.malformed ⟨template, position, fault⟩)
        ⟨kind, text ++ " (at position " ++ toString position ++ " in " ++
          quoted template.toList ++ ")"⟩
  | unusable {template : String} {reasons : List String} : Noted (.unusable template reasons)
      ⟨"UnusableFormatError", "Date format cannot be used: " ++ "; ".intercalate reasons⟩

theorem FormatError.noted (e : FormatError) : e.Noted ⟨e.kind, e.message⟩ := by
  cases e with
  | unusable template reasons => exact .unusable
  | malformed e =>
    obtain ⟨template, position, fault⟩ := e
    cases fault with
    | dangling => exact .malformed .dangling
    | afterGroup => exact .malformed .afterGroup
    | unmatchedClose => exact .malformed .unmatchedClose
    | unclosedOpen => exact .malformed .unclosedOpen
    | unknownField marker => exact .malformed .unknownField
    | duplicateField c => exact .malformed .duplicateField

/-! ## Entries -/

/-- The note of an entry that is refused. Completion never refuses a value that was read, so there
is no note of such an error. -/
inductive EntryError.Noted : EntryError → ErrorNote → Prop
  | unmatched {position : Nat} {rest : List Char} {segment : Segment} :
      Noted (.read (.unmatched position rest segment))
        ⟨"MalformedInputError", "Input " ++ quoted rest ++ " does not match " ++
          quoted segment.source⟩
  | outOfRange {position value : Nat} {c : Component} :
      Noted (.read (.outOfRange position c value))
        ⟨"MalformedInputError", c.title ++ " " ++ toString value ++ " is outside " ++
          toString c.low ++ "-" ++ toString c.high⟩
  | trailing {position : Nat} {rest : List Char} : Noted (.read (.trailing position rest))
      ⟨"TrailingInputError", "Unexpected trailing input " ++ quoted rest⟩
  | incompletable {shape : Shape} : Noted (.date (.incompletable shape))
      ⟨"NoValidDateError", "Cannot complete a date from " ++ shape.describe ", " "nothing"⟩
  | noneBefore {reference : Date} : Noted (.date (.noneBefore reference))
      ⟨"NoValidDateError", "No matching date on or before " ++ reference.iso⟩
  | invalid {year month day : Int} : Noted (.date (.invalid year month day))
      ⟨"InvalidCalendarDateError", zeroPadded 2 day ++ "." ++ zeroPadded 2 month ++ "." ++
        zeroPadded 4 year ++ " is not a valid date"⟩

theorem ReadError.noted (e : ReadError) : EntryError.Noted (.read e) ⟨e.kind, e.message⟩ := by
  cases e with
  | unmatched position rest segment => exact .unmatched
  | outOfRange position c value => exact .outOfRange
  | trailing position rest => exact .trailing

theorem DateError.message_invalid {year month day : Int} (hday : Writable day)
    (hmonth : Writable month) (hyear : Writable year) :
    (invalid year month day).message = zeroPadded 2 day ++ "." ++ zeroPadded 2 month ++ "." ++
      zeroPadded 4 year ++ " is not a valid date" := by
  simp [message, text?, hday, hmonth, hyear]

namespace Format

variable {f : Format} {text : String} {reference : Date}

theorem noted_of_resolve_error {e : EntryError} (h : f.resolve text reference = .error e) :
    e.Noted ⟨e.kind, e.message⟩ := by
  cases hread : f.read text with
  | error e' =>
    cases h.symm.trans (resolve_of_read_error hread)
    exact e'.noted
  | ok parts =>
    have hrange := inRange_of_read hread
    obtain ⟨e', he', rfl⟩ := (resolve_eq_error_iff_of_read hread).mp h
    cases (DateParts.complete_eq_error_iff hrange).mp he' with
    | incompletable hs => exact .incompletable
    | noneBefore hs hyear hnone => exact .noneBefore
    | @invalid year month day hparts hlong =>
      subst hparts
      have hmessage := DateError.message_invalid (hrange .day day rfl).writable
        (hrange .month month rfl).writable (hrange .year year rfl).writable
      show EntryError.Noted _ ⟨_, (DateError.invalid year month day).message⟩
      rw [hmessage]
      exact .invalid

end Format

/-! ## Numbers that were read -/

/-- The parts of an entry are completed without a number too long to be told. -/
theorem Format.attempt_of_read {f : Format} {text : String} {parts : DateParts}
    (h : f.read text = .ok parts) (reference : Date) :
    parts.attempt reference = (parts.complete reference).mapError .date :=
  DateParts.attempt_of_writable fun c n hc => (inRange_of_read h c n hc).writable

/-- What the journal says of a date that does not exist can be told. -/
theorem isSome_text?_of_journalDate {text : String} {e : DateError}
    (h : journalDate text = .error (.date e)) : e.text?.isSome = true := by
  have houtcome := journalOutcome_journalDate text
  rw [h] at houtcome
  cases houtcome with
  | @invalid year month day hform hnone =>
    obtain ⟨hyear, hmonth, hday⟩ := hform.bounds
    have hwritable : ∀ n : Nat, n ≤ 9999 → Writable n := fun n hn =>
      writable_of_natAbs_lt (by omega)
    simp [DateError.text?, hwritable day (by omega), hwritable month (by omega),
      hwritable year hyear]

end DatePrompt
