/-!
# References in values

A value may refer to a name by a dollar sign and the name in braces; after a colon and a hyphen the
braces may hold a text for a name without a value. Expansion replaces each reference once: what it
is replaced by is not looked at again.
-/

namespace DatePrompt

/-- A name referred to, and the text that stands for it if it is unknown. -/
structure Reference where
  name : List Char
  default : List Char
  deriving DecidableEq, Repr

/-- The reference at the front of a text, with the number of characters it takes. -/
def Reference.atFront? : List Char → Option (Reference × Nat)
  | '$' :: '\x7b' :: rest =>
    let name := rest.takeWhile fun c => c ≠ '\x7d' ∧ c ≠ ':'
    match rest.drop name.length with
    | '\x7d' :: _ => some (⟨name, []⟩, name.length + 3)
    | ':' :: '-' :: rest =>
      let default := rest.takeWhile (· ≠ '\x7d')
      match rest.drop default.length with
      | _ :: _ => some (⟨name, default⟩, name.length + default.length + 5)
      | [] => none
    | _ => none
  | _ => none

/-- Replaces the references in a text, some characters at its front being covered already. -/
def expandFrom (value : Reference → List Char) : Nat → List Char → List Char
  | _, [] => []
  | n + 1, _ :: rest => expandFrom value n rest
  | 0, c :: rest => match Reference.atFront? (c :: rest) with
    | some (r, width) => value r ++ expandFrom value (width - 1) rest
    | none => c :: expandFrom value 0 rest

/-- The text with each reference replaced by its value. -/
def expand (value : Reference → List Char) (text : List Char) : List Char :=
  expandFrom value 0 text

end DatePrompt
