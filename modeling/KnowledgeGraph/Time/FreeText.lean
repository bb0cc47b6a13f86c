import KnowledgeGraph.Number.Binary64
import KnowledgeGraph.Number.Whole
import KnowledgeGraph.Time.Interchange

/-!
# Times in free text

Records carry their times as texts of many forms.  A text that cannot be understood counts as
no time at all and is never an error.  After trimming, these forms are tried in order.

* The strict interchange format.
* A date and a time of day, with the letter `T`, blanks or nothing between them.  The seconds
  may be missing if the letter is.
* A date, which stands for its midnight.
* A whole number of 64 bits: the seconds since the start of 1970.
* A decimal number.  It is rounded to a double, and its fraction is dropped.

Times without an offset are those of the prime meridian.
-/

namespace KnowledgeGraph.Time

/-- The patterns of times without an offset, in the order of trial. -/
def plainPatterns : List (List Item) :=
  [datePattern ++ .gap :: secondPattern,
    datePattern ++ .mark 'T' :: secondPattern,
    datePattern ++ .gap :: minutePattern,
    datePattern]

/-- Reads a time without an offset. -/
def readPlain? (pattern : List Item) (cs : List Char) : Option Instant :=
  (readPattern? pattern cs).bind (Instant.ofReading? · 0)

/-- Takes a sign off the front of a text, and says whether it is a minus sign. -/
def takeSign : List Char → Bool × List Char
  | '-' :: cs => (true, cs)
  | '+' :: cs => (false, cs)
  | cs => (false, cs)

/-- Whether a text consists of digits, at least one. -/
def isDigits (cs : List Char) : Bool := !cs.isEmpty && cs.all Char.isDigit

/-- Reads a whole number of 64 bits. -/
def readWhole? (cs : List Char) : Option Int :=
  let (negative, ds) := takeSign cs
  if isDigits ds then
    let n : Int := if negative then -(decimalValue ds : Int) else decimalValue ds
    if Number.IsSigned n then some n else none
  else none

/-- A decimal number `mantissa * 10 ^ exponent`, with a sign. -/
structure Scientific where
  /-- Whether a minus sign stands in front. -/
  negative : Bool
  /-- The digits, without the point. -/
  mantissa : Nat
  /-- The power of ten. -/
  exponent : Int

/-- Reads the exponent of a decimal number.  No text is the exponent 0. -/
def readPower? (cs : List Char) : Option Int :=
  match cs with
  | [] => some 0
  | c :: cs =>
      let (negative, ds) := takeSign cs
      if (c = 'e' ∨ c = 'E') ∧ isDigits ds then
        some (if negative then -(decimalValue ds : Int) else decimalValue ds)
      else none

/-- Reads a decimal number.  It has a digit before or after its point. -/
def readScientific? (cs : List Char) : Option Scientific := do
  let (negative, cs) := takeSign cs
  let whole := cs.takeWhile Char.isDigit
  let rest := cs.dropWhile Char.isDigit
  let (fraction, rest) :=
    match rest with
    | '.' :: rest => (rest.takeWhile Char.isDigit, rest.dropWhile Char.isDigit)
    | rest => ([], rest)
  if whole.isEmpty && fraction.isEmpty then none
  else
    let power ← readPower? rest
    return ⟨negative, decimalValue (whole ++ fraction), power - fraction.length⟩

/-- The whole number that is left of the double nearest to a decimal number when its fraction
is dropped.  There is none if the number is too large for a double. -/
def Scientific.truncate? (x : Scientific) : Option Int :=
  let size := (Nat.toDigits 10 x.mantissa).length + x.exponent
  if x.mantissa = 0 ∨ size < -400 then some 0
  else if 400 < size then none
  else
    (Number.Dyadic.ofFloat?
        (Float.ofScientific x.mantissa (x.exponent < 0) x.exponent.natAbs)).map fun d =>
      if x.negative then -d.truncate else d.truncate

/-- The instant of a number of seconds. -/
def readEpoch? (cs : List Char) : Option Instant :=
  match readWhole? cs with
  | some n => Instant.of? n 0
  | none => (readScientific? cs).bind fun x => x.truncate?.bind (Instant.of? · 0)

/-- The instant of a trimmed text. -/
def readFree? (cs : List Char) : Option Instant :=
  readStrict? cs <|> plainPatterns.findSome? (readPlain? · cs) <|> readEpoch? cs

/-- The instant of a text, if it can be understood. -/
def ofText? (s : String) : Option Instant := readFree? (Text.trimChars s.toList)

/-- The instant of an optional text. -/
def ofOptionalText? (s : Option String) : Option Instant := s.bind ofText?

end KnowledgeGraph.Time
