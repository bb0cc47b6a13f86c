/-!
# The calendar

Dates of the Gregorian calendar, extended to all years, and their numbers: the days since
1 January 1970.  Year 0 is the year before year 1.

`dayNumber` counts the days before a year, before a month and within the month.  `ofDayNumber`
goes the other way.  It splits a day count into periods of 400, 100, 4 and 1 years.  The last
period of 100 and of 1 years is a day longer than the others, so a count of four of them
stands for the last day of the fourth.
-/

namespace KnowledgeGraph

/-- A date. -/
structure Date where
  /-- The year. -/
  year : Int
  /-- The month, from 1 to 12. -/
  month : Nat
  /-- The day of the month, from 1 on. -/
  day : Nat
deriving DecidableEq, Repr

namespace Date

/-- Whether a year has 366 days. -/
def isLeap (year : Int) : Bool :=
  year % 4 == 0 && (year % 100 != 0 || year % 400 == 0)

/-- The lengths of the months of a year. -/
def monthLengths (year : Int) : List Nat :=
  [31, if isLeap year then 29 else 28, 31, 30, 31, 30, 31, 31, 30, 31, 30, 31]

/-- The length of a month, and 0 for a number that is no month. -/
def daysInMonth (year : Int) (month : Nat) : Nat :=
  if month = 0 then 0 else (monthLengths year).getD (month - 1) 0

/-- Whether the month and the day exist. -/
def IsValid (d : Date) : Prop := 1 ≤ d.day ∧ d.day ≤ daysInMonth d.year d.month

instance (d : Date) : Decidable d.IsValid := inferInstanceAs (Decidable (_ ∧ _))

/-- The days from 1 January of year 1 to 1 January of a year. -/
def daysBeforeYear (year : Int) : Int :=
  let y := year - 1
  365 * y + y / 4 - y / 100 + y / 400

/-- The days from 1 January of a year to the first day of a month. -/
def daysBeforeMonth (year : Int) (month : Nat) : Nat :=
  ((monthLengths year).take (month - 1)).foldl (· + ·) 0

/-- The days from 1 January of year 1 to 1 January 1970. -/
def epochOffset : Int := 719162

/-- The days since 1 January 1970. -/
def dayNumber (d : Date) : Int :=
  daysBeforeYear d.year + daysBeforeMonth d.year d.month + (d.day - 1 : Int) - epochOffset

/-- The month and the day of a day that is counted from 0 within the given months.  `month`
is the number of the first of them. -/
def monthAndDay : List Nat → Nat → Nat → Nat × Nat
  | [], month, day => (month, day + 1)
  | length :: rest, month, day =>
      if day < length then (month, day + 1) else monthAndDay rest (month + 1) (day - length)

/-- The year of a day counted from 1 January of year 1, and the day within the year, counted
from 0. -/
def yearAndDay (days : Int) : Int × Nat :=
  let period400 := days / 146097
  let in400 := days % 146097
  let period100 := min (in400 / 36524) 3
  let in100 := in400 - period100 * 36524
  let period4 := in100 / 1461
  let in4 := in100 % 1461
  let period1 := min (in4 / 365) 3
  (400 * period400 + 100 * period100 + 4 * period4 + period1 + 1,
    (in4 - period1 * 365).toNat)

/-- The date of a day number. -/
def ofDayNumber (n : Int) : Date :=
  let (year, day) := yearAndDay (n + epochOffset)
  let (month, day) := monthAndDay (monthLengths year) 1 day
  ⟨year, month, day⟩

example : dayNumber ⟨1970, 1, 1⟩ = 0 ∧ ofDayNumber 0 = ⟨1970, 1, 1⟩ := by decide
example : dayNumber ⟨2024, 2, 29⟩ = 19782 ∧ ofDayNumber 19782 = ⟨2024, 2, 29⟩ := by decide
example : ofDayNumber (-719529) = ⟨-1, 12, 31⟩ ∧ ofDayNumber (-719528) = ⟨0, 1, 1⟩ := by decide

end Date

end KnowledgeGraph
