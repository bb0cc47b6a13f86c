import KnowledgeGraph.Time.Instant

/-!
# Instants in writing

Dates are written `YYYY-MM-DD` and instants `YYYY-MM-DDThh:mm:ssZ`, in the time of the prime
meridian.  A year from 0 to 9999 has four digits.  Any other year has a sign and at least
four digits.  A leap second is second 60.  The fraction of a second is either dropped
(`Instant.written`) or written with the fewest of 0, 3, 6 and 9 digits that are exact
(`Instant.writtenExactly`).
-/

namespace KnowledgeGraph

/-- The character of the last decimal digit of a number. -/
def lastDigit (n : Nat) : Char := Char.ofNat (48 + n % 10)

/-- The last two digits of a number. -/
def twoDigits (n : Nat) : List Char := [lastDigit (n / 10), lastDigit n]

/-- The last four digits of a number. -/
def fourDigits (n : Nat) : List Char := twoDigits (n / 100) ++ twoDigits n

/-- The last `k` digits of a number. -/
def lastDigits : Nat → Nat → List Char
  | 0, _ => []
  | k + 1, n => lastDigits k (n / 10) ++ [lastDigit n]

/-- A year. -/
def yearChars (year : Int) : List Char :=
  let n := year.natAbs
  let digits := if n < 10000 then fourDigits n else Nat.toDigits 10 n
  if 0 ≤ year ∧ year < 10000 then digits
  else (if year < 0 then '-' else '+') :: digits

/-- A date. -/
def Date.chars (d : Date) : List Char :=
  yearChars d.year ++ '-' :: twoDigits d.month ++ '-' :: twoDigits d.day

namespace Instant

/-- The date and the time of day of a reading, without its fraction. -/
def Reading.chars (r : Reading) : List Char :=
  r.date.chars ++ 'T' :: twoDigits r.hour ++ ':' :: twoDigits r.minute ++
    ':' :: twoDigits r.second

/-- The fraction of a second, with its point. -/
def fractionChars (nanos : Nat) : List Char :=
  if nanos = 0 then []
  else if nanos % 1000000 = 0 then '.' :: lastDigits 3 (nanos / 1000000)
  else if nanos % 1000 = 0 then '.' :: lastDigits 6 (nanos / 1000)
  else '.' :: lastDigits 9 nanos

/-- The date of an instant. -/
def writtenDate (t : Instant) : String := String.ofList t.date.chars

/-- An instant to the second. -/
def written (t : Instant) : String := String.ofList (t.reading.chars ++ ['Z'])

/-- An instant with its fraction. -/
def writtenExactly (t : Instant) : String :=
  String.ofList (t.reading.chars ++ fractionChars t.reading.nanos ++ ['Z'])

end Instant

example : yearChars 2024 = "2024".toList ∧ yearChars (-1) = "-0001".toList ∧
    yearChars 10000 = "+10000".toList := by decide
example : Instant.fractionChars 250000 = ".000250".toList := by decide

end KnowledgeGraph
