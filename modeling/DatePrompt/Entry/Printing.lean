import DatePrompt.Entry.Resolution

/-!
# Printing a date

A date is printed in all segments of a format. Day and month have two digits and the year four; a
short year has its last two if the whole text then reads back as the date, and four otherwise.
-/

namespace DatePrompt

/-- The digits of a date in a field; `short` allows a short year. -/
def Field.digits (short : Bool) (d : Date) : Field → List Char
  | day => fixedWidth 2 d.day.toNat
  | month => fixedWidth 2 d.month.toNat
  | shortYear => if short then fixedWidth 2 d.year.toNat else fixedWidth 4 d.year.toNat
  | longYear => fixedWidth 4 d.year.toNat

def Atom.printed (short : Bool) (d : Date) : Atom → List Char
  | literal t => t
  | field f => f.digits short d

namespace Format

/-- The date in all segments of the format. -/
def write (f : Format) (d : Date) (short : Bool) : String :=
  String.ofList (f.segments.flatten.flatMap (Atom.printed short d))

/-- Whether the date reads back when its year is printed short. -/
def shortYearReadsBack (f : Format) (d : Date) : Bool := f.readsBack (f.write d true) d

/-- The date as it is shown in the format. -/
def print (f : Format) (d : Date) : String :=
  if Field.shortYear ∈ f.fields then f.write d (f.shortYearReadsBack d) else f.write d false

end Format

end DatePrompt
