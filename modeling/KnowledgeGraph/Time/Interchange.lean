import KnowledgeGraph.Time.Pattern
import KnowledgeGraph.Time.Written

/-!
# The interchange format for instants

Instants with an offset from the prime meridian, such as `2024-03-01T09:00:00-03:00`.  The
strict form has fields of fixed width.  The relaxed form reads its numbers as a pattern does
and lets blanks stand before every mark, before the offset and at the end.

An offset is `Z`, or a sign, two digits of hours and two of minutes.  The sign may be the
minus sign U+2212.  In the strict form the hours and minutes are set apart by one colon and
an offset is at most 23 hours and 59 minutes.  In the relaxed form any run of colons and
blanks may stand between them, `UTC` stands for no offset, and an offset is less than a day.
-/

namespace KnowledgeGraph.Time

open Character (isBlank)
open Text (dropBlanks)

/-- Reads exactly `width` digits. -/
def readFixed? (width : Nat) (cs : List Char) : Option (Nat × List Char) :=
  let ds := cs.take width
  if ds.length = width ∧ ds.all Char.isDigit then some (decimalValue ds, cs.drop width)
  else none

/-- Reads one given character. -/
def readMark? (c : Char) : List Char → Option (List Char)
  | d :: rest => if d = c then some rest else none
  | [] => none

/-- Reads the letter or space between date and time. -/
def readSeparator? : List Char → Option (List Char)
  | c :: rest => if c = 'T' ∨ c = 't' ∨ c = ' ' then some rest else none
  | [] => none

/-- Reads a fraction of a second in nanoseconds, if one stands there.  Digits past the ninth
do not count. -/
def readNanos? (cs : List Char) : Option (Nat × List Char) :=
  match cs with
  | '.' :: cs =>
      match readDigits? 9 cs with
      | some (n, _) =>
          let digits := cs.takeWhile Char.isDigit
          some (n * Nat.pow 10 (9 - min digits.length 9), cs.dropWhile Char.isDigit)
      | none => none
  | cs => some (0, cs)

/-- Reads an offset in seconds.  `between` reads what stands between hours and minutes. -/
def readOffset? (between : List Char → Option (List Char)) (cs : List Char) :
    Option (Int × List Char) :=
  let signed (negative : Bool) (cs : List Char) : Option (Int × List Char) := do
    let (hours, cs) ← readFixed? 2 cs
    let cs ← between cs
    let (minutes, cs) ← readFixed? 2 cs
    if minutes < 60 then
      let seconds : Int := (hours * 3600 + minutes * 60 : Nat)
      return (if negative then -seconds else seconds, cs)
    else none
  match cs with
  | 'Z' :: cs => some (0, cs)
  | 'z' :: cs => some (0, cs)
  | '+' :: cs => signed false cs
  | '-' :: cs => signed true cs
  | '\u2212' :: cs => signed true cs
  | _ => none

/-- Reads the strict form. -/
def readStrict? (cs : List Char) : Option Instant := do
  let (year, cs) ← readFixed? 4 cs
  let cs ← readMark? '-' cs
  let (month, cs) ← readFixed? 2 cs
  let cs ← readMark? '-' cs
  let (day, cs) ← readFixed? 2 cs
  let cs ← readSeparator? cs
  let (hour, cs) ← readFixed? 2 cs
  let cs ← readMark? ':' cs
  let (minute, cs) ← readFixed? 2 cs
  let cs ← readMark? ':' cs
  let (second, cs) ← readFixed? 2 cs
  let (nanos, cs) ← readNanos? cs
  let (offset, cs) ← readOffset? (readMark? ':') cs
  if cs.isEmpty ∧ offset.natAbs ≤ (23 * 60 + 59) * 60 then
    Instant.ofReading? ⟨year, month, day, hour, minute, second, nanos⟩ offset
  else none

/-- A pattern with blanks allowed before every mark. -/
def loosen : List Item → List Item
  | [] => []
  | .mark c :: items => .gap :: .mark c :: loosen items
  | item :: items => item :: loosen items

/-- The letters of `UTC` in either case, taken off the front of a text. -/
def dropUTC? (cs : List Char) : Option (List Char) :=
  match cs with
  | u :: t :: c :: rest =>
      if u.toUpper = 'U' ∧ t.toUpper = 'T' ∧ c.toUpper = 'C' then some rest else none
  | _ => none

/-- Reads the relaxed form. -/
def readRelaxed? (cs : List Char) : Option Instant := do
  let (reading, cs) ← readItems? (loosen datePattern) {} cs
  let cs ← readSeparator? cs
  let (reading, cs) ← readItems? (loosen secondPattern) reading cs
  let (nanos, cs) ← readNanos? cs
  let cs := dropBlanks cs
  let (offset, cs) ←
    match dropUTC? cs with
    | some cs => some (0, cs)
    | none => readOffset? (fun cs => some (cs.dropWhile fun c => c = ':' || isBlank c)) cs
  if (dropBlanks cs).isEmpty ∧ offset.natAbs < 86400 then
    Instant.ofReading? { reading with nanos } offset
  else none

/-- The instant of a text in the relaxed form. -/
def ofRelaxed? (s : String) : Option Instant := readRelaxed? s.toList

end KnowledgeGraph.Time
