/-!
# The civil calendar

Dates of the proleptic Gregorian calendar, and the number of days from 1970-01-01 to a date. Years
are counted from March here, so that the leap day is the last day of a year and the months before it
have lengths that one line of arithmetic gives; 400 years are a full cycle of 146097 days.

`dayNumber` and `civil` are this arithmetic in the two directions. A date is one that exists exactly
when its month and day are in range (`isDate`).
-/

namespace TestReport.Calendar

/-- Whether a year has a leap day. -/
def isLeapYear (year : Int) : Bool :=
  year % 4 == 0 && (year % 100 != 0 || year % 400 == 0)

/-- The number of days of a month. -/
def monthLength (year : Int) (month : Nat) : Nat :=
  if month = 2 then (if isLeapYear year then 29 else 28)
  else if month = 4 ∨ month = 6 ∨ month = 9 ∨ month = 11 then 30
  else 31

/-- Whether there is a day with this date. -/
def isDate (year : Int) (month day : Nat) : Bool :=
  1 ≤ month && month ≤ 12 && 1 ≤ day && day ≤ monthLength year month

/-- The number of days from 1970-01-01 to a date. -/
def dayNumber (year : Int) (month day : Nat) : Int :=
  let y := if month ≤ 2 then year - 1 else year
  let ofCycle := y % 400
  let ofYear : Int := (153 * ((month + 9) % 12) + 2) / 5 + day - 1
  y / 400 * 146097 + (ofCycle * 365 + ofCycle / 4 - ofCycle / 100 + ofYear) - 719468

/-- The year, month and day of a number of days from 1970-01-01. -/
def civil (n : Int) : Int × Nat × Nat :=
  let z := n + 719468
  let ofCycle := z % 146097
  let yearOfCycle := (ofCycle - ofCycle / 1460 + ofCycle / 36524 - ofCycle / 146096) / 365
  let ofYear := ofCycle - (365 * yearOfCycle + yearOfCycle / 4 - yearOfCycle / 100)
  let m := (5 * ofYear + 2) / 153
  let day := ofYear - (153 * m + 2) / 5 + 1
  let month := if m < 10 then m + 3 else m - 9
  let year := yearOfCycle + z / 146097 * 400
  (if month ≤ 2 then year + 1 else year, month.toNat, day.toNat)

example : dayNumber 1970 1 1 = 0 := by decide
example : civil (dayNumber 2024 2 29) = (2024, 2, 29) := by decide
example : civil (-1) = (1969, 12, 31) := by decide

end TestReport.Calendar
