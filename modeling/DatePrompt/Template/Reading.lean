import DatePrompt.Template.Error
import DatePrompt.Template.Format

/-!
# Reading a template

A template is read once from the left. As a group must stand at the end of the one that holds it,
nothing but closing brackets may follow the first closing bracket.
-/

namespace DatePrompt

/-- Puts a literal character in front of a segment, into the literal that the segment begins with
if it does so. -/
def Segment.consChar (c : Char) : Segment → Segment
  | .literal t :: s => .literal (c :: t) :: s
  | s => .literal [c] :: s

theorem Segment.source_consChar (c : Char) (s : Segment) :
    (s.consChar c).source = c :: s.source := by
  unfold consChar
  split <;> simp [source, Atom.source]

theorem Segment.fields_consChar (c : Char) (s : Segment) : (s.consChar c).fields = s.fields := by
  unfold consChar
  split <;> rfl

namespace Template

/-- Reads the end of a template, from after the first closing bracket on. The positions of the
brackets still open come with the innermost first. -/
def readClosed (opened : List Nat) (pos : Nat) : List Char → Except (Nat × TemplateFault) Unit
  | [] => match opened with
    | [] => .ok ()
    | p :: _ => .error (p, .unclosedOpen)
  | ']' :: rest => match opened with
    | [] => .error (pos, .unmatchedClose)
    | _ :: opened => readClosed opened (pos + 1) rest
  | ['%'] => .error (pos, .dangling)
  | _ :: _ => .error (pos, .afterGroup)

/-- Reads a template from within a segment, no bracket being closed yet: the rest of the segment
and the groups after it. The components asked for before are those of `seen`. -/
def readOpen (opened : List Nat) (seen : Shape) (pos : Nat) :
    List Char → Except (Nat × TemplateFault) (Segment × List Segment)
  | [] => match opened with
    | [] => .ok ([], [])
    | p :: _ => .error (p, .unclosedOpen)
  | ['%'] => .error (pos, .dangling)
  | '%' :: c :: rest => match Field.ofMarker? c with
    | none => .error (pos, .unknownField c)
    | some f =>
      if seen.has f.component then .error (pos, .duplicateField f.component)
      else (readOpen opened (seen.add f.component) (pos + 2) rest).map
        fun (s, groups) => (.field f :: s, groups)
  | '[' :: rest => (readOpen (pos :: opened) seen (pos + 1) rest).map
      fun (s, groups) => ([], s :: groups)
  | ']' :: rest => match opened with
    | [] => .error (pos, .unmatchedClose)
    | _ :: opened => (readClosed opened (pos + 1) rest).map fun _ => ([], [])
  | c :: rest => (readOpen opened seen (pos + 1) rest).map
      fun (s, groups) => (s.consChar c, groups)

end Template

/-- The format that a template describes, or the first place where it goes wrong. -/
def Format.ofTemplate (template : String) : Except TemplateError Format :=
  match Template.readOpen [] .empty 0 template.toList with
  | .ok (head, groups) => .ok ⟨head, groups⟩
  | .error (position, fault) => .error ⟨template, position, fault⟩

end DatePrompt
