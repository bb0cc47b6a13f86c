import KnowledgeGraph.Text.Words
import KnowledgeGraph.Time.Instant

/-!
# Patterns of dates and times

A pattern is a list of items that a text is read against.  A slot reads the number of one
part of a date or time, after any blanks.  A year is a sign and any number of digits, or one
to four digits without a sign.  Every other part has one or two digits.  A mark stands for
itself, and a gap stands for any blanks, none included.  A slot takes as many digits as it
may.
-/

namespace KnowledgeGraph.Time

open Text (dropBlanks)

/-- The parts of a date and a time of day. -/
inductive Part where
  /-- The year. -/
  | year
  /-- The month. -/
  | month
  /-- The day of the month. -/
  | day
  /-- The hour. -/
  | hour
  /-- The minute. -/
  | minute
  /-- The second. -/
  | second
deriving DecidableEq

/-- An item of a pattern. -/
inductive Item where
  /-- The number of a part. -/
  | slot (part : Part)
  /-- A character that stands for itself. -/
  | mark (c : Char)
  /-- Any blanks. -/
  | gap

/-- The number that decimal digits stand for. -/
def decimalValue (cs : List Char) : Nat := cs.foldl (fun n c => n * 10 + (c.toNat - 48)) 0

/-- Reads the leading digits of a text, at least one and at most `width`. -/
def readDigits? (width : Nat) (cs : List Char) : Option (Nat × List Char) :=
  match (cs.take width).takeWhile Char.isDigit with
  | [] => none
  | ds => some (decimalValue ds, cs.drop ds.length)

/-- Reads the leading digits of a text, at least one. -/
def readAllDigits? (cs : List Char) : Option (Nat × List Char) := readDigits? cs.length cs

/-- Reads a year. -/
def readYear? (cs : List Char) : Option (Int × List Char) :=
  match cs with
  | '-' :: cs => (readAllDigits? cs).map fun (n, rest) => (-(n : Int), rest)
  | '+' :: cs => (readAllDigits? cs).map fun (n, rest) => ((n : Int), rest)
  | cs => (readDigits? 4 cs).map fun (n, rest) => ((n : Int), rest)

/-- A reading with a number in the place of a part. -/
def setPart (r : Instant.Reading) (n : Int) : Part → Instant.Reading
  | .year => { r with year := n }
  | .month => { r with month := n.toNat }
  | .day => { r with day := n.toNat }
  | .hour => { r with hour := n.toNat }
  | .minute => { r with minute := n.toNat }
  | .second => { r with second := n.toNat }

/-- Reads the number of a part. -/
def readPart? (part : Part) (cs : List Char) : Option (Int × List Char) :=
  match part with
  | .year => readYear? cs
  | _ => (readDigits? 2 cs).map fun (n, rest) => ((n : Int), rest)

/-- Reads the items of a pattern into a reading, and gives the rest of the text. -/
def readItems? : List Item → Instant.Reading → List Char → Option (Instant.Reading × List Char)
  | [], r, cs => some (r, cs)
  | .slot part :: items, r, cs =>
      match readPart? part (dropBlanks cs) with
      | some (n, rest) => readItems? items (setPart r n part) rest
      | none => none
  | .mark c :: items, r, cs =>
      match cs with
      | d :: rest => if d = c then readItems? items r rest else none
      | [] => none
  | .gap :: items, r, cs => readItems? items r (dropBlanks cs)

/-- Reads a whole text against a pattern. -/
def readPattern? (pattern : List Item) (cs : List Char) : Option Instant.Reading :=
  match readItems? pattern {} cs with
  | some (r, []) => some r
  | _ => none

/-- Year, month and day with hyphens. -/
def datePattern : List Item :=
  [.slot .year, .mark '-', .slot .month, .mark '-', .slot .day]

/-- Hour and minute with a colon. -/
def minutePattern : List Item := [.slot .hour, .mark ':', .slot .minute]

/-- Hour, minute and second with colons. -/
def secondPattern : List Item := minutePattern ++ [.mark ':', .slot .second]

end KnowledgeGraph.Time
