/-!
# Blank characters

The characters that count as white space around an entry and inside a settings file: the ASCII
blanks and separators, and the spaces and line ends of Unicode.
-/

namespace DatePrompt

/-- Whether a character is white space. -/
def Blank (c : Char) : Prop :=
  let n := c.toNat
  0x9 ≤ n ∧ n ≤ 0xD ∨ 0x1C ≤ n ∧ n ≤ 0x20 ∨ n = 0x85 ∨ n = 0xA0 ∨ n = 0x1680 ∨
    0x2000 ≤ n ∧ n ≤ 0x200A ∨ n = 0x2028 ∨ n = 0x2029 ∨ n = 0x202F ∨ n = 0x205F ∨ n = 0x3000

instance : DecidablePred Blank := fun c => by unfold Blank; infer_instance

/-- The text without its trailing blanks. -/
def stripEnd (s : List Char) : List Char :=
  (s.reverse.dropWhile (Blank ·)).reverse

/-- The text without its leading and trailing blanks. -/
def strip (s : List Char) : List Char :=
  stripEnd (s.dropWhile (Blank ·))

theorem stripEnd_append_blanks {s : List Char} (t : List Char) (h : ∀ c ∈ t, Blank c) :
    stripEnd (s ++ t) = stripEnd s := by
  rw [stripEnd, List.reverse_append, List.dropWhile_append_of_pos (by simpa using h), stripEnd]

theorem exists_eq_stripEnd_append (s : List Char) :
    ∃ trail, (∀ c ∈ trail, Blank c) ∧ s = stripEnd s ++ trail := by
  refine ⟨(s.reverse.takeWhile (Blank ·)).reverse, ?_, ?_⟩
  · intro c hc
    have hall := List.all_takeWhile (p := fun c => decide (Blank c)) (l := s.reverse)
    exact of_decide_eq_true (List.all_eq_true.mp hall c (List.mem_reverse.mp hc))
  · rw [stripEnd, ← List.reverse_append, List.takeWhile_append_dropWhile, List.reverse_reverse]

/-- A text is what is left of it with blanks around. -/
theorem exists_eq_append_strip_append (s : List Char) :
    ∃ lead trail, (∀ c ∈ lead, Blank c) ∧ (∀ c ∈ trail, Blank c) ∧
      s = lead ++ strip s ++ trail := by
  obtain ⟨trail, htrail, hsplit⟩ := exists_eq_stripEnd_append (s.dropWhile (Blank ·))
  refine ⟨s.takeWhile (Blank ·), trail, ?_, htrail, ?_⟩
  · intro c hc
    have hall := List.all_takeWhile (p := fun c => decide (Blank c)) (l := s)
    exact of_decide_eq_true (List.all_eq_true.mp hall c hc)
  · rw [List.append_assoc, strip, ← hsplit, List.takeWhile_append_dropWhile]

theorem dropWhile_blank_eq_self {s : List Char} (h : ∀ c ∈ s.head?, ¬ Blank c) :
    s.dropWhile (Blank ·) = s := by
  cases s with
  | nil => rfl
  | cons c s => exact List.dropWhile_cons_of_neg (by simpa using h c rfl)

/-- The blanks around a text go, if it neither begins nor ends with one. -/
theorem strip_append_append {lead core trail : List Char} (hlead : ∀ c ∈ lead, Blank c)
    (htrail : ∀ c ∈ trail, Blank c) (hcore : core ≠ []) (hfirst : ∀ c ∈ core.head?, ¬ Blank c)
    (hlast : ∀ c ∈ core.getLast?, ¬ Blank c) : strip (lead ++ core ++ trail) = core := by
  have hstart : (core ++ trail).dropWhile (Blank ·) = core ++ trail := by
    obtain ⟨c, rest, rfl⟩ := List.exists_cons_of_ne_nil hcore
    exact dropWhile_blank_eq_self hfirst
  have hend : core.reverse.dropWhile (Blank ·) = core.reverse :=
    dropWhile_blank_eq_self (by rwa [List.head?_reverse])
  rw [strip, List.append_assoc, List.dropWhile_append_of_pos (by simpa using hlead), hstart,
    stripEnd_append_blanks trail htrail, stripEnd, hend, List.reverse_reverse]

end DatePrompt
