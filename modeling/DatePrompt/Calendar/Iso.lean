import DatePrompt.Calendar.Date
import DatePrompt.Text.Decimal

/-!
# The ISO form of a date

Four digits of year, two of month and two of day, with hyphens between. Every date reads back from
it (`ofIso?_iso`).
-/

namespace DatePrompt.Date

def iso (d : Date) : String :=
  String.ofList (fixedWidth 4 d.year.toNat ++ '-' :: fixedWidth 2 d.month.toNat ++
    '-' :: fixedWidth 2 d.day.toNat)

/-- Reads the ISO form. -/
def ofIso? (text : String) : Option Date :=
  match text.toList with
  | [y₁, y₂, y₃, y₄, '-', m₁, m₂, '-', d₁, d₂] =>
    if [y₁, y₂, y₃, y₄, m₁, m₂, d₁, d₂].all Char.isDigit then
      ofParts? (decimalValue [y₁, y₂, y₃, y₄]) (decimalValue [m₁, m₂]) (decimalValue [d₁, d₂])
    else none
  | _ => none

/-- The ISO form reads back. -/
theorem ofIso?_iso (d : Date) : ofIso? d.iso = some d := by
  obtain ⟨hylow, hyhigh⟩ := d.year_bounds
  obtain ⟨hmlow, hmhigh⟩ := d.month_bounds
  obtain ⟨hdlow, hdhigh⟩ := d.day_bounds
  have hyear : decimalValue (fixedWidth 4 d.year.toNat) = d.year.toNat :=
    value_fixedWidth_of_lt (show _ < 10000 by omega)
  have hmonth : decimalValue (fixedWidth 2 d.month.toNat) = d.month.toNat :=
    value_fixedWidth_of_lt (show _ < 100 by omega)
  have hday : decimalValue (fixedWidth 2 d.day.toNat) = d.day.toNat :=
    value_fixedWidth_of_lt (show _ < 100 by omega)
  have hdigits : (fixedWidth 4 d.year.toNat ++ fixedWidth 2 d.month.toNat ++
      fixedWidth 2 d.day.toNat).all Char.isDigit = true := by
    simp only [List.all_append, all_isDigit_fixedWidth, Bool.and_self]
  have hread : ofIso? d.iso = ofParts? (decimalValue (fixedWidth 4 d.year.toNat))
      (decimalValue (fixedWidth 2 d.month.toNat)) (decimalValue (fixedWidth 2 d.day.toNat)) := by
    rw [ofIso?, iso, String.toList_ofList]
    exact if_pos hdigits
  rw [hread, hyear, hmonth, hday, ofParts?_eq_some]
  omega

end DatePrompt.Date
