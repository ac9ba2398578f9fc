import DatePrompt.Entry.Cutting
import DatePrompt.Text.Quoted

/-!
# Reading an entry

An entry is read by its preferred cutting. If there is none, the format is walked once more,
segment by segment with as many digits as there are, to say where the entry goes wrong.
-/

namespace DatePrompt

/-- Where and why an entry does not fit a format. -/
inductive ReadError
  /-- The rest of the entry does not begin with the segment. -/
  | unmatched (position : Nat) (rest : List Char) (segment : Segment)
  /-- A number is none that the component can have. -/
  | outOfRange (position : Nat) (component : Component) (value : Nat)
  /-- The entry goes on after the last segment. -/
  | trailing (position : Nat) (rest : List Char)
  deriving DecidableEq, Repr

namespace ReadError

def position : ReadError → Nat
  | unmatched p _ _ | outOfRange p _ _ | trailing p _ => p

def message : ReadError → String
  | unmatched _ rest segment =>
    "Input " ++ quoted rest ++ " does not match " ++ quoted segment.source
  | outOfRange _ c value => c.outsideText value
  | trailing _ rest => "Unexpected trailing input " ++ quoted rest

/-- The name that the kind of error has for the reader of a log. -/
def kind : ReadError → String
  | unmatched .. | outOfRange .. => "MalformedInputError"
  | trailing .. => "TrailingInputError"

end ReadError

/-- The first field of a cutting whose value is out of range, with its position and value, for a
cutting that begins at a position of the entry. -/
def Cutting.outOfRange? (position : Nat) : Cutting → Option (Nat × Component × Nat)
  | [] => none
  | (.literal _, piece) :: c => outOfRange? (position + piece.length) c
  | (.field f, piece) :: c =>
    if f.component.InRange (f.value piece) then outOfRange? (position + piece.length) c
    else some (position, f.component, f.value piece)

/-- Takes a segment off the front of the input, with as many digits as there are. -/
def Segment.walk (position : Nat) (s : Segment) (input : List Char) :
    Except ReadError (Cutting × List Char) :=
  match (s.cuttings .greedy input).head? with
  | none => .error (.unmatched position input s)
  | some (c, rest) => match c.outOfRange? position with
    | some (p, component, value) => .error (.outOfRange p component value)
    | none => .ok (c, rest)

/-- Takes groups off the input as long as any of it is left. -/
def walkGroups (position : Nat) : List Segment → List Char → Except ReadError Cutting
  | _, [] => .ok []
  | [], c :: rest => .error (.trailing position (c :: rest))
  | s :: groups, c :: input =>
    match s.walk position (c :: input) with
    | .error e => .error e
    | .ok (cutting, rest) =>
      (walkGroups (position + cutting.text.length) groups rest).map (cutting ++ ·)

namespace Format

/-- Follows an entry through the format without ever going back. -/
def walk (f : Format) (input : List Char) : Except ReadError Cutting :=
  match f.head.walk 0 input with
  | .error e => .error e
  | .ok (cutting, rest) => (walkGroups cutting.text.length f.groups rest).map (cutting ++ ·)

/-- The date parts that an entry gives. -/
def read (f : Format) (text : String) : Except ReadError DateParts :=
  match (f.cuttings text.toList).head? with
  | some c => .ok c.parts
  | none => (f.walk text.toList).map Cutting.parts

end Format

end DatePrompt
