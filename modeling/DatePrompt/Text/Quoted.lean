import DatePrompt.Text.Printable

/-!
# Quoted text

Messages show a text between quotes. The quote is the apostrophe, unless the text holds an
apostrophe and no double quote. The quote itself and the backslash follow a backslash, tab and line
ends have letters, and an unprintable character is given by the shortest of the three
hexadecimal forms that can hold its number.
-/

namespace DatePrompt

/-- The last `w` hexadecimal digits of `n`, in lower case. -/
def hexDigits : Nat → Nat → List Char
  | 0, _ => []
  | w + 1, n => hexDigits w (n / 16) ++ [Nat.digitChar (n % 16)]

theorem length_hexDigits (w n : Nat) : (hexDigits w n).length = w := by
  induction w generalizing n with
  | zero => rfl
  | succ w ih => simp [hexDigits, ih]

/-- A character by its number. -/
def numbered (c : Char) : List Char :=
  let n := c.toNat
  if n < 0x100 then '\\' :: 'x' :: hexDigits 2 n
  else if n < 0x10000 then '\\' :: 'u' :: hexDigits 4 n
  else '\\' :: 'U' :: hexDigits 8 n

/-- How one character stands between two quotes. -/
def escaped (quote c : Char) : List Char :=
  if c = quote ∨ c = '\\' then ['\\', c]
  else if c = '\t' then ['\\', 't']
  else if c = '\n' then ['\\', 'n']
  else if c = '\r' then ['\\', 'r']
  else if Printable c then [c]
  else numbered c

/-- The quote that needs fewer escapes, the apostrophe if in doubt. -/
def quoteFor (s : List Char) : Char :=
  if '\'' ∈ s ∧ '"' ∉ s then '"' else '\''

/-- The text between quotes. -/
def quoted (s : List Char) : String :=
  let q := quoteFor s
  String.ofList (q :: s.flatMap (escaped q) ++ [q])

theorem numbered_ne_nil (c : Char) : numbered c ≠ [] := by
  unfold numbered
  dsimp only
  repeat' split
  all_goals exact List.cons_ne_nil _ _

theorem escaped_ne_nil (quote c : Char) : escaped quote c ≠ [] := by
  unfold escaped
  repeat' split
  all_goals first | exact List.cons_ne_nil _ _ | exact numbered_ne_nil c

theorem length_le_length_flatMap_escaped (quote : Char) (s : List Char) :
    s.length ≤ (s.flatMap (escaped quote)).length := by
  induction s with
  | nil => exact Nat.zero_le _
  | cons c s ih =>
    have hpos := List.length_pos_iff.mpr (escaped_ne_nil quote c)
    rw [List.flatMap_cons, List.length_append, List.length_cons]
    omega

theorem length_numbered_le (c : Char) : (numbered c).length ≤ 10 := by
  unfold numbered
  dsimp only
  repeat' split
  all_goals simp [length_hexDigits]

theorem length_escaped_le (quote c : Char) : (escaped quote c).length ≤ 10 := by
  have hnumbered := length_numbered_le c
  unfold escaped
  repeat' split
  all_goals simp [hnumbered]

theorem length_flatMap_escaped_le (quote : Char) (s : List Char) :
    (s.flatMap (escaped quote)).length ≤ 10 * s.length := by
  induction s with
  | nil => exact Nat.le_refl 0
  | cons c s ih =>
    have hc := length_escaped_le quote c
    rw [List.flatMap_cons, List.length_append, List.length_cons]
    omega

theorem length_quoted (s : List Char) :
    (quoted s).length = (s.flatMap (escaped (quoteFor s))).length + 2 := by
  rw [quoted, String.length_ofList, List.length_append, List.length_cons, List.length_singleton]

/-- A character takes at most ten between the quotes. -/
theorem length_quoted_le (s : List Char) : (quoted s).length ≤ 10 * s.length + 2 := by
  have h := length_flatMap_escaped_le (quoteFor s) s
  rw [length_quoted]
  omega

/-- No character is lost between the quotes. -/
theorem length_add_two_le_length_quoted (s : List Char) : s.length + 2 ≤ (quoted s).length := by
  have h := length_le_length_flatMap_escaped (quoteFor s) s
  rw [length_quoted]
  omega

end DatePrompt
