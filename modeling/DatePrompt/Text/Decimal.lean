/-!
# Decimal numbers

The value of a run of digits, the numeral of a fixed width, padding with zeros to a least width, and
the limit on the digits that an integer is written with. `value_fixedWidth` says that a numeral of
`w` digits reads back modulo the `w`-th power of ten, and `decimalValue_lt` that no run of at most
`w` digits has a greater value.
-/

namespace DatePrompt

/-- The number that a run of decimal digits denotes. -/
def decimalValue (ds : List Char) : Nat :=
  ds.foldl (fun n c => 10 * n + (c.toNat - '0'.toNat)) 0

theorem decimalValue_snoc (ds : List Char) (c : Char) :
    decimalValue (ds ++ [c]) = 10 * decimalValue ds + (c.toNat - '0'.toNat) := by
  simp [decimalValue]

theorem decimalValue_cons (c : Char) (ds : List Char) :
    decimalValue (c :: ds) = (c.toNat - '0'.toNat) * Nat.pow 10 ds.length + decimalValue ds := by
  have shift : ∀ n, ds.foldl (fun n c => 10 * n + (c.toNat - '0'.toNat)) n =
      n * Nat.pow 10 ds.length + decimalValue ds := by
    induction ds with
    | nil => intro n; exact (Nat.mul_one n).symm
    | cons d ds ih =>
      intro n
      rw [decimalValue, List.foldl_cons, List.foldl_cons, ih, ih, List.length_cons,
        show Nat.pow 10 (ds.length + 1) = Nat.pow 10 ds.length * 10 from rfl]
      grind
  rw [decimalValue, List.foldl_cons, shift, Nat.mul_zero, Nat.zero_add]

theorem isDigit_iff {c : Char} : c.isDigit = true ↔ '0'.toNat ≤ c.toNat ∧ c.toNat ≤ '9'.toNat := by
  rw [Char.isDigit, Bool.and_eq_true, decide_eq_true_eq, decide_eq_true_eq]
  exact Iff.rfl

theorem decimalValue_lt_pow_length {ds : List Char} (h : ds.all Char.isDigit = true) :
    decimalValue ds < Nat.pow 10 ds.length := by
  induction ds with
  | nil => exact Nat.one_pos
  | cons c ds ih =>
    rw [List.all_cons, Bool.and_eq_true] at h
    have hc : c.toNat - '0'.toNat ≤ 9 := Nat.sub_le_sub_right (isDigit_iff.mp h.1).2 _
    have hm := Nat.mul_le_mul_right (Nat.pow 10 ds.length) hc
    have hd := ih h.2
    rw [decimalValue_cons, List.length_cons,
      show Nat.pow 10 (ds.length + 1) = Nat.pow 10 ds.length * 10 from rfl]
    omega

theorem decimalValue_lt {ds : List Char} {w : Nat} (h : ds.all Char.isDigit = true)
    (hw : ds.length ≤ w) : decimalValue ds < Nat.pow 10 w :=
  Nat.lt_of_lt_of_le (decimalValue_lt_pow_length h) (Nat.pow_le_pow_right (by decide) hw)

/-- The numeral of `n` in exactly `w` digits, the low ones. -/
def fixedWidth : Nat → Nat → List Char
  | 0, _ => []
  | w + 1, n => fixedWidth w (n / 10) ++ [Nat.digitChar (n % 10)]

theorem length_fixedWidth (w n : Nat) : (fixedWidth w n).length = w := by
  induction w generalizing n with
  | zero => rfl
  | succ w ih => simp [fixedWidth, ih]

theorem digitChar_isDigit : ∀ {n : Nat}, n < 10 → (Nat.digitChar n).isDigit := by decide

theorem digitChar_value : ∀ {n : Nat}, n < 10 → (Nat.digitChar n).toNat - '0'.toNat = n := by
  decide

theorem isDigit_of_mem_fixedWidth {w n : Nat} {c : Char} (h : c ∈ fixedWidth w n) :
    c.isDigit := by
  induction w generalizing n with
  | zero => simp [fixedWidth] at h
  | succ w ih =>
    rcases List.mem_append.mp h with h | h
    · exact ih h
    · rw [List.mem_singleton.mp h]
      exact digitChar_isDigit (Nat.mod_lt _ (by decide))

theorem value_fixedWidth (w n : Nat) : decimalValue (fixedWidth w n) = n % Nat.pow 10 w := by
  induction w generalizing n with
  | zero => exact (Nat.mod_one n).symm
  | succ w ih =>
    rw [fixedWidth, decimalValue_snoc, ih, digitChar_value (Nat.mod_lt _ (by decide)),
      show Nat.pow 10 (w + 1) = 10 * Nat.pow 10 w from Nat.mul_comm _ _, Nat.mod_mul]
    omega

theorem value_fixedWidth_of_lt {w n : Nat} (h : n < Nat.pow 10 w) :
    decimalValue (fixedWidth w n) = n := by
  rw [value_fixedWidth, Nat.mod_eq_of_lt h]

/-- Only the low digits of a number are written. -/
theorem fixedWidth_mod (w n : Nat) : fixedWidth w (n % Nat.pow 10 w) = fixedWidth w n := by
  induction w generalizing n with
  | zero => rfl
  | succ w ih =>
    rw [fixedWidth, fixedWidth, show Nat.pow 10 (w + 1) = 10 * Nat.pow 10 w from Nat.mul_comm _ _,
      Nat.mod_mul_right_div_self, Nat.mod_mul_right_mod, ih]

theorem all_isDigit_fixedWidth (w n : Nat) : (fixedWidth w n).all Char.isDigit = true :=
  List.all_eq_true.mpr fun _ => isDigit_of_mem_fixedWidth

/-- The numeral of an integer with zeros before its digits, until sign and digits together are
`w` characters. -/
def zeroPadded (w : Nat) (i : Int) : String :=
  let sign := if i < 0 then "-" else ""
  let digits := Nat.repr i.natAbs
  sign ++ String.ofList (List.replicate (w - sign.length - digits.length) '0') ++ digits

/-! ## Numbers too long to be written -/

/-- The most digits that an integer is written with. -/
def maxDigits : Nat := 4300

/-- Whether an integer is short enough to be written. -/
def Writable (i : Int) : Prop := (Nat.toDigits 10 i.natAbs).length ≤ maxDigits

instance : DecidablePred Writable := fun _ => by unfold Writable; infer_instance

/-! The powers of ten are compared at any exponent, so that none is worked out. -/

theorem writable_iff_lt {i : Int} : Writable i ↔ i.natAbs < Nat.pow 10 maxDigits := by
  have hlength : ∀ k, 0 < k → ((Nat.toDigits 10 i.natAbs).length ≤ k ↔ i.natAbs < Nat.pow 10 k) :=
    fun k hk => Nat.length_toDigits_le_iff (by decide) hk
  exact hlength maxDigits (by decide)

theorem ten_pow_le {j k : Nat} (h : j ≤ k) : Nat.pow 10 j ≤ Nat.pow 10 k :=
  Nat.pow_le_pow_right (by decide) h

theorem writable_of_natAbs_lt {i : Int} (h : i.natAbs < 10000) : Writable i :=
  writable_iff_lt.mpr (Nat.lt_of_lt_of_le h (@ten_pow_le 4 maxDigits (by decide)))

theorem not_writable_pow {k : Nat} (h : maxDigits ≤ k) : ¬ Writable (Nat.pow 10 k : Nat) := by
  rw [writable_iff_lt, Int.natAbs_natCast]
  exact Nat.not_lt_of_le (ten_pow_le h)

/-- What is said of an integer that is too long. -/
def tooLong : String :=
  s!"Exceeds the limit ({maxDigits} digits) for integer string conversion; " ++
    "use sys.set_int_max_str_digits() to increase the limit"

/-! ## Runs of digits -/

/-- Whether a text does not begin with a digit. -/
def NoDigitFirst (text : List Char) : Prop := ∀ x rest, text = x :: rest → x.isDigit = false

theorem noDigitFirst_nil : NoDigitFirst [] := by
  intro x rest h
  cases h

theorem noDigitFirst_cons {x : Char} {rest : List Char} (h : x.isDigit = false) :
    NoDigitFirst (x :: rest) := by
  intro y rest' heq
  cases heq
  exact h

theorem takeWhile_isDigit_append {ds rest : List Char} (hds : ds.all Char.isDigit = true)
    (hrest : NoDigitFirst rest) : (ds ++ rest).takeWhile Char.isDigit = ds := by
  rw [List.takeWhile_append_of_pos (List.all_eq_true.mp hds)]
  cases rest with
  | nil => simp
  | cons x rest => simp [hrest x rest rfl]

theorem dropWhile_isDigit_append {ds rest : List Char} (hds : ds.all Char.isDigit = true)
    (hrest : NoDigitFirst rest) : (ds ++ rest).dropWhile Char.isDigit = rest := by
  rw [List.dropWhile_append_of_pos (List.all_eq_true.mp hds)]
  cases rest with
  | nil => rfl
  | cons x rest => exact List.dropWhile_cons_of_neg (by simp [hrest x rest rfl])

/-- A run of digits is known by the text that it begins, if no digit follows it. -/
theorem digits_append_inj {ds es t u : List Char} (hds : ds.all Char.isDigit = true)
    (hes : es.all Char.isDigit = true) (ht : NoDigitFirst t) (hu : NoDigitFirst u)
    (h : ds ++ t = es ++ u) : ds = es ∧ t = u := by
  have hrun : ds = es := by
    rw [← takeWhile_isDigit_append hds ht, h, takeWhile_isDigit_append hes hu]
  subst hrun
  exact ⟨rfl, List.append_cancel_left h⟩

end DatePrompt
