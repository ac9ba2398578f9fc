import DatePrompt.Calendar.Date

/-!
# Clocks

A clock tells the date of each reading, the readings being numbered from 0.
-/

namespace DatePrompt

/-- The date at each reading. -/
abbrev Clock := Nat → Date

/-- The clock that goes through a list of dates and stays at the last. -/
def Clock.ofList (first : Date) (rest : List Date) : Clock := fun n =>
  ((first :: rest)[n]?).getD ((first :: rest).getLast (by simp))

end DatePrompt
