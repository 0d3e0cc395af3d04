set_option autoImplicit false

/-!
# Names of days and months

The English names, in full and cut to three letters.
-/

namespace FieldGuide.Calendar

/-- The days of the week from Monday. -/
def weekdayNames : List String :=
  ["Monday", "Tuesday", "Wednesday", "Thursday", "Friday", "Saturday", "Sunday"]

/-- The months from January. -/
def monthNames : List String :=
  ["January", "February", "March", "April", "May", "June", "July", "August", "September",
   "October", "November", "December"]

/-- The full name of a day of the week, Monday being 0. -/
def weekdayName (day : Nat) : List Char := (weekdayNames.getD day "").toList

/-- The full name of a month, January being 1. -/
def monthName (month : Nat) : List Char := (monthNames.getD (month - 1) "").toList

/-- A name cut to three letters. -/
def shortName (name : List Char) : List Char := name.take 3

end FieldGuide.Calendar
