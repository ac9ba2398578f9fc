import DatePrompt.Entry.Cutting

/-!
# What the rows of digits take

The rows of a field say by their spans alone which digits it may have. `Field.exists_rows_iff` says
that these are the runs of one to `Field.maxWidth` digits whose value is in range: no row lets a
value out of range through, and none is missing. `Field.rows_pairwise` says that the rows try the
widths of the field in the order of `Field.widths`, rows of the same width having no run in common.
-/

namespace DatePrompt

theorem DigitSpan.has_any {c : Char} : any.Has c ↔ c.isDigit = true := by
  rw [isDigit_iff]
  exact DigitSpan.has_iff

namespace DigitRow

/-- A row of any `w` digits takes the runs of that width. -/
theorem takes_replicate_any {w : Nat} {ds : List Char} :
    takes (List.replicate w .any) ds = true ↔ ds.length = w ∧ ds.all Char.isDigit = true := by
  induction w generalizing ds with
  | zero => cases ds <;> simp
  | succ w ih =>
    cases ds with
    | nil => simp [List.replicate_succ]
    | cons c ds =>
      rw [List.replicate_succ, takes_cons, ih, DigitSpan.has_any, List.all_cons, Bool.and_eq_true,
        List.length_cons, Nat.add_right_cancel_iff]
      exact and_left_comm

theorem positiveRows_succ (w : Nat) : positiveRows (w + 1) =
    (.positive :: List.replicate w .any) :: (positiveRows w).map (.zero :: ·) := by
  rw [positiveRows, List.range_succ_eq_map, List.map_cons, List.map_map, positiveRows, List.map_map]
  congr 1
  refine List.map_congr_left fun zeros _ => ?_
  rw [Function.comp_apply, Function.comp_apply, List.replicate_succ, List.cons_append,
    show w + 1 - (zeros + 1) - 1 = w - zeros - 1 by omega]

/-- The positive rows of a width take the runs of that width, zero excepted. -/
theorem exists_positiveRows_iff {w : Nat} {ds : List Char} :
    (∃ row ∈ positiveRows w, row.takes ds = true) ↔
      ds.length = w ∧ ds.all Char.isDigit = true ∧ 1 ≤ decimalValue ds := by
  induction w generalizing ds with
  | zero => cases ds <;> simp [positiveRows, decimalValue]
  | succ w ih =>
    cases ds with
    | nil => simp [positiveRows_succ]
    | cons c ds =>
      rw [positiveRows_succ, List.length_cons, Nat.add_right_cancel_iff, List.all_cons,
        Bool.and_eq_true, isDigit_iff, decimalValue_cons]
      constructor
      · rintro ⟨row, hrow, htakes⟩
        rcases List.mem_cons.mp hrow with rfl | hrow
        · -- the first digit alone makes the value positive
          obtain ⟨hc, hds⟩ := takes_cons.mp htakes
          obtain ⟨hlen, hdig⟩ := takes_replicate_any.mp hds
          have h1 : '0'.toNat + 1 ≤ c.toNat := hc.1
          have hm : 1 ≤ (c.toNat - '0'.toNat) * Nat.pow 10 ds.length :=
            Nat.mul_pos (by omega) (Nat.pow_pos (by decide))
          exact ⟨hlen, ⟨⟨by omega, hc.2⟩, hdig⟩, by omega⟩
        · obtain ⟨row, hmem, rfl⟩ := List.mem_map.mp hrow
          obtain ⟨hc, hds⟩ := takes_cons.mp htakes
          obtain ⟨hlen, hdig, hval⟩ := ih.mp ⟨row, hmem, hds⟩
          have h9 : '0'.toNat ≤ '9'.toNat := by decide
          exact ⟨hlen, ⟨⟨hc.1, Nat.le_trans hc.2 h9⟩, hdig⟩, by omega⟩
      · rintro ⟨hlen, ⟨hc, hdig⟩, hval⟩
        by_cases h0 : c.toNat = '0'.toNat
        · rw [h0, Nat.sub_self, Nat.zero_mul, Nat.zero_add] at hval
          obtain ⟨row, hrow, hds⟩ := ih.mpr ⟨hlen, hdig, hval⟩
          refine ⟨.zero :: row, List.mem_cons_of_mem _ (List.mem_map_of_mem hrow), ?_⟩
          exact takes_cons.mpr ⟨⟨hc.1, Nat.le_of_eq h0⟩, hds⟩
        · refine ⟨_, List.mem_cons_self, takes_cons.mpr ⟨?_, takes_replicate_any.mpr ⟨hlen, hdig⟩⟩⟩
          exact ⟨Nat.lt_of_le_of_ne hc.1 (Ne.symm h0), hc.2⟩

/-- Whether some place of two rows has no digit in common. -/
def Apart (row row' : DigitRow) : Prop :=
  ∃ p ∈ row.zip row', p.1.last < p.2.first ∨ p.2.last < p.1.first

instance (row row' : DigitRow) : Decidable (row.Apart row') := by unfold Apart; infer_instance

theorem not_apart_of_takes {row row' : DigitRow} {input : List Char}
    (h : row.takes (input.take row.length) = true)
    (h' : row'.takes (input.take row'.length) = true) : ¬ row.Apart row' := by
  induction row generalizing row' input with
  | nil =>
    rintro ⟨p, hp, _⟩
    cases hp
  | cons s row ih =>
    rintro ⟨p, hp, hapart⟩
    cases row' with
    | nil => cases hp
    | cons s' row' =>
      cases input with
      | nil => cases h
      | cons c input =>
        obtain ⟨hc, hrow⟩ := takes_cons.mp h
        obtain ⟨hc', hrow'⟩ := takes_cons.mp h'
        rcases List.mem_cons.mp hp with rfl | hp
        · rcases hapart with hlt | hlt
          · exact absurd (Nat.le_trans hc'.1 hc.2) (Nat.not_le_of_lt hlt)
          · exact absurd (Nat.le_trans hc.1 hc'.2) (Nat.not_le_of_lt hlt)
        · exact ih hrow hrow' ⟨p, hp, hapart⟩

end DigitRow

theorem Component.inRange_natCast {c : Component} {n : Nat} :
    c.InRange n ↔ 1 ≤ n ∧ (n : Int) ≤ c.high := by
  rw [InRange, low]
  omega

namespace Field

/-! ## Values in range -/

theorem value_of_ne {f : Field} (h : f ≠ .shortYear) (ds : List Char) :
    f.value ds = decimalValue ds := if_neg fun h' => h h'.1

theorem value_of_wide (f : Field) {ds : List Char} (h : 2 < ds.length) :
    f.value ds = decimalValue ds := if_neg fun h' => by omega

theorem value_short {ds : List Char} (h : ds.length ≤ 2) :
    shortYear.value ds = 2000 + decimalValue ds := if_pos ⟨rfl, h⟩

theorem fits_single {f : Field} (hf : f ≠ .shortYear) {a : Char} : (Atom.field f).Fits [a] ↔
    a.isDigit = true ∧ f.component.InRange (a.toNat - '0'.toNat : Nat) := by
  have hw : 1 ≤ f.maxWidth := by cases f <;> decide
  rw [Atom.Fits, value_of_ne hf]
  simp [decimalValue, hw]

theorem fits_pair {f : Field} (hf : f ≠ .shortYear) {a b : Char} : (Atom.field f).Fits [a, b] ↔
    (a.isDigit = true ∧ b.isDigit = true) ∧
      f.component.InRange (10 * (a.toNat - '0'.toNat) + (b.toNat - '0'.toNat) : Nat) := by
  have hw : 2 ≤ f.maxWidth := by cases f <;> decide
  rw [Atom.Fits, value_of_ne hf]
  simp [decimalValue, hw]

theorem fits_longYear_iff {ds : List Char} : (Atom.field .longYear).Fits ds ↔
    (1 ≤ ds.length ∧ ds.length ≤ 4) ∧ ds.all Char.isDigit = true ∧ 1 ≤ decimalValue ds := by
  rw [Atom.Fits, value_of_ne (by decide), Component.inRange_natCast]
  refine and_congr_right fun hlen => and_congr_right fun hdig => and_iff_left ?_
  have : decimalValue ds < 10000 := decimalValue_lt hdig hlen.2
  change (decimalValue ds : Int) ≤ 9999
  omega

theorem fits_shortYear_iff {ds : List Char} : (Atom.field .shortYear).Fits ds ↔
    (1 ≤ ds.length ∧ ds.length ≤ 4) ∧ ds.all Char.isDigit = true ∧
      (2 < ds.length → 1 ≤ decimalValue ds) := by
  rw [Atom.Fits, Component.inRange_natCast]
  refine and_congr_right fun hlen => and_congr_right fun hdig => ?_
  change 1 ≤ _ ∧ _ ≤ (9999 : Int) ↔ _
  by_cases hw : ds.length ≤ 2
  · have : decimalValue ds < 100 := decimalValue_lt hdig hw
    rw [value_short hw]
    omega
  · have : decimalValue ds < 10000 := decimalValue_lt hdig hlen.2
    rw [value_of_wide _ (by omega)]
    omega

/-! ## The rows of a field -/

theorem exists_shortYear_rows_iff {ds : List Char} :
    (∃ row ∈ rows .shortYear, row.takes ds = true) ↔
      (ds.length = 2 ∧ ds.all Char.isDigit = true) ∨
      (ds.length = 1 ∧ ds.all Char.isDigit = true) ∨
      (ds.length = 4 ∧ ds.all Char.isDigit = true ∧ 1 ≤ decimalValue ds) ∨
      (ds.length = 3 ∧ ds.all Char.isDigit = true ∧ 1 ≤ decimalValue ds) := by
  rw [← DigitRow.takes_replicate_any, ← DigitRow.takes_replicate_any,
    ← DigitRow.exists_positiveRows_iff, ← DigitRow.exists_positiveRows_iff]
  simp [rows, or_and_right, exists_or]

theorem exists_longYear_rows_iff {ds : List Char} :
    (∃ row ∈ rows .longYear, row.takes ds = true) ↔
      ∃ w ∈ [4, 3, 2, 1], ds.length = w ∧ ds.all Char.isDigit = true ∧ 1 ≤ decimalValue ds := by
  simp only [rows, List.mem_flatMap, ← DigitRow.exists_positiveRows_iff]
  constructor
  · rintro ⟨row, ⟨w, hw, hrow⟩, htakes⟩
    exact ⟨w, hw, row, hrow, htakes⟩
  · rintro ⟨w, hw, row, hrow, htakes⟩
    exact ⟨row, ⟨w, hw, hrow⟩, htakes⟩

/-- The rows of a field take the runs that fit it. -/
theorem exists_rows_iff {f : Field} {ds : List Char} :
    (∃ row ∈ f.rows, row.takes ds = true) ↔ (Atom.field f).Fits ds := by
  cases f with
  | day | month =>
    -- one digit or two, compared by their numbers
    simp only [rows, List.mem_cons, List.not_mem_nil, or_false, exists_eq_or_imp, exists_eq_left]
    match ds with
    | [] => simp [Atom.Fits]
    | [a] =>
      rw [fits_single (by decide), Component.inRange_natCast]
      simp only [DigitRow.takes_cons, DigitRow.takes_cons_nil, DigitRow.takes_nil, isDigit_iff,
        DigitSpan.has_iff, DigitSpan.positive, Char.reduceToNat, component, Component.high,
        Bool.false_eq_true, and_false, and_true, false_or]
      omega
    | [a, b] =>
      rw [fits_pair (by decide), Component.inRange_natCast]
      simp only [DigitRow.takes_cons, DigitRow.takes_nil, isDigit_iff, DigitSpan.has_iff,
        DigitSpan.zero, DigitSpan.positive, DigitSpan.any, Char.reduceToNat, component,
        Component.high, List.cons_ne_self, and_true, and_false, or_false]
      omega
    | _ :: _ :: _ :: _ => simp [Atom.Fits, maxWidth, component]
  | shortYear =>
    rw [exists_shortYear_rows_iff, fits_shortYear_iff]
    by_cases hdig : ds.all Char.isDigit = true
    · simp only [hdig, true_and, and_true]
      omega
    · simp [hdig]
  | longYear =>
    rw [exists_longYear_rows_iff, fits_longYear_iff]
    by_cases hdig : ds.all Char.isDigit = true
    · simp only [hdig, true_and, List.mem_cons, List.not_mem_nil, or_false, exists_eq_or_imp,
        exists_eq_left]
      omega
    · simp [hdig]

/-- The widths that a field is read in, the preferred first. -/
def widths : Field → List Nat
  | day | month => [2, 1]
  | shortYear => [2, 1, 4, 3]
  | longYear => [4, 3, 2, 1]

/-- The place of a width in the order of preference. -/
def rank (f : Field) (w : Nat) : Nat := f.widths.idxOf w

/-- A row stands before those of a less preferred width, and apart from all others after it. -/
theorem rows_pairwise (f : Field) : f.rows.Pairwise fun row row' =>
    f.rank row.length < f.rank row'.length ∨ DigitRow.Apart row row' := by
  cases f <;> decide

end Field

end DatePrompt
