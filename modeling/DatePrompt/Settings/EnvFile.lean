import DatePrompt.Settings.Expansion
import DatePrompt.Text.Blank

/-!
# Environment files

A file of assignments, one to a line: a name, an equals sign and a value, the word `export` being
allowed in front and blanks around the sign. A value is plain, and then ends with the line or before
a blank and a number sign, or it stands in single or double quotes, where a backslash escapes. A
number sign begins a comment. A line that does not fit is passed over. Any value may refer to the
names assigned before it and to the variables of the environment.

The readers below take their part off the front of the input. A reader that fails tells where,
because what is passed over is the rest of that line.
-/

namespace DatePrompt

/-- The name of an assignment, and the value unless the name stands alone. -/
structure Assignment where
  name : String
  value : Option String
  deriving DecidableEq, Repr

namespace EnvFile

/-- The text without a byte order mark in front. -/
def dropMark : List Char → List Char
  | '\ufeff' :: text => text
  | text => text

/-- All line ends made line feeds. -/
def unifyLines : List Char → List Char
  | '\r' :: '\n' :: rest => '\n' :: unifyLines rest
  | '\r' :: rest => '\n' :: unifyLines rest
  | c :: rest => c :: unifyLines rest
  | [] => []

/-- What a reader has read and what is left, or the place where it failed. -/
abbrev Reader (α : Type) := List Char → Except (List Char) (α × List Char)

def skipBlanks (input : List Char) : List Char := input.dropWhile (Blank ·)

/-- Drops the blanks before the end of the line. -/
def skipInline (input : List Char) : List Char := input.dropWhile fun c => Blank c ∧ c ≠ '\n'

/-- Drops the line, its end included. -/
def skipLine (input : List Char) : List Char := (input.dropWhile (· ≠ '\n')).drop 1

/-- Drops the word `export` if a blank follows it on the line. -/
def skipExport (input : List Char) : List Char :=
  match input with
  | 'e' :: 'x' :: 'p' :: 'o' :: 'r' :: 't' :: c :: rest =>
    if Blank c ∧ c ≠ '\n' then skipInline rest else input
  | _ => input

/-- Reads a name, plain or in single quotes. A comment has none. -/
def readName : Reader (Option (List Char)) := fun input =>
  match input with
  | '#' :: _ => .ok (none, input)
  | '\'' :: rest =>
    match rest.takeWhile (· ≠ '\''), rest.dropWhile (· ≠ '\'') with
    | c :: name, _ :: rest => .ok (some (c :: name), rest)
    | _, _ => .error input
  | _ =>
    match input.takeWhile fun c => ¬ Blank c ∧ c ≠ '=' ∧ c ≠ '#' with
    | [] => .error input
    | c :: name => .ok (some (c :: name), input.drop (c :: name).length)

/-- The text up to the closing quote, and what follows the quote. A backslash takes the next
character with it, so that a quote after it does not close. -/
def untilQuote (quote : Char) : List Char → Option (List Char × List Char)
  | [] => none
  | '\\' :: c :: rest => (untilQuote quote rest).map fun (text, rest) => ('\\' :: c :: text, rest)
  | c :: rest =>
    if c = quote then some ([], rest)
    else (untilQuote quote rest).map fun (text, rest) => (c :: text, rest)

/-- What a backslash and a character stand for in double quotes. -/
def doubleEscape? : Char → Option Char
  | '\\' => some '\\'
  | '\'' => some '\''
  | '"' => some '"'
  | 'a' => some '\x07'
  | 'b' => some '\x08'
  | 'f' => some '\x0c'
  | 'n' => some '\n'
  | 'r' => some '\r'
  | 't' => some '\t'
  | 'v' => some '\x0b'
  | _ => none

/-- What a backslash and a character stand for in single quotes. -/
def singleEscape? : Char → Option Char
  | '\\' => some '\\'
  | '\'' => some '\''
  | _ => none

/-- Resolves the escapes of a quoted text and leaves other backslashes alone. -/
def unescape (escape? : Char → Option Char) : List Char → List Char
  | '\\' :: c :: rest => match escape? c with
    | some d => d :: unescape escape? rest
    | none => '\\' :: unescape escape? (c :: rest)
  | c :: rest => c :: unescape escape? rest
  | [] => []

/-- The part of a plain value before a comment, if a number sign follows a blank in it. -/
def uncommented : List Char → List Char
  | c :: d :: rest => if Blank c ∧ d = '#' then [] else c :: uncommented (d :: rest)
  | rest => rest

/-- Reads a value, the blanks before it included. -/
def readValue : Reader (List Char) := fun input =>
  match skipInline input with
  | '\'' :: rest => match untilQuote '\'' rest with
    | some (text, rest) => .ok (unescape singleEscape? text, rest)
    | none => .error input
  | '"' :: rest => match untilQuote '"' rest with
    | some (text, rest) => .ok (unescape doubleEscape? text, rest)
    | none => .error input
  | _ => .ok (strip (uncommented (input.takeWhile (· ≠ '\n'))), input.dropWhile (· ≠ '\n'))

/-- Reads the rest of a line, which may hold a comment and nothing else. -/
def readLineEnd : Reader Unit := fun input =>
  match skipInline input with
  | [] => .ok ((), [])
  | '\n' :: rest => .ok ((), rest)
  | '#' :: rest => .ok ((), skipLine rest)
  | _ => .error input

/-- Reads a line after its leading blanks: an assignment, or a comment. -/
def readLine : Reader (Option Assignment) := fun input => do
  let (name, input) ← readName (skipExport input)
  let input := skipInline input
  let (value, input) ← match input with
    | '=' :: rest => (readValue rest).map fun (v, rest) => (some v, rest)
    | _ => .ok (none, input)
  let ((), input) ← readLineEnd input
  return (name.map fun n => ⟨String.ofList n, value.map String.ofList⟩, input)

/-- The assignments of at most a number of lines, in order. -/
def readLines : Nat → List Char → List Assignment
  | 0, _ => []
  | n + 1, input => match skipBlanks input with
    | [] => []
    | line => match readLine line with
      | .ok (assignment, rest) => assignment.toList ++ readLines n rest
      | .error rest => readLines n (skipLine rest)

/-- The assignments of a text. It has no more lines than characters. -/
def readAll (input : List Char) : List Assignment := readLines input.length input

/-- Makes an assignment in a list that has each name once. A name keeps its place. -/
def assign (a : Assignment) : List Assignment → List Assignment
  | [] => [a]
  | b :: rest => if b.name = a.name then a :: rest else b :: assign a rest

/-- What a reference stands for, given the variables of the environment and the assignments made
before. An assignment comes before a variable, even if its name stands alone. -/
def valueOf (vars : List (String × String)) (made : List Assignment) (r : Reference) :
    List Char :=
  let name := String.ofList r.name
  match made.find? (·.name = name) with
  | some a => (a.value.getD "").toList
  | none => match vars.find? (·.1 = name) with
    | some (_, v) => v.toList
    | none => r.default

/-- The assignment with the references in its value replaced. -/
def expanded (vars : List (String × String)) (made : List Assignment) (a : Assignment) :
    Assignment :=
  { a with value := a.value.map fun v => String.ofList (expand (valueOf vars made) v.toList) }

/-- The assignments that hold at the end of a file. -/
def assignments (vars : List (String × String)) (text : String) : List Assignment :=
  (readAll (unifyLines (dropMark text.toList))).foldl
    (fun made a => assign (expanded vars made a) made) []

end EnvFile

end DatePrompt
