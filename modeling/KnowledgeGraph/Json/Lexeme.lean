import KnowledgeGraph.Json.Draft
import KnowledgeGraph.Number.Whole

/-!
# Numbers and texts in JSON

The two lexemes with a value of their own, as they are written, and the rules that give them
their value.

A text in quotes is a list of pieces: characters that stand for themselves or for which a
short escape stands, and four-digit escapes, each of which is a UTF-16 unit.  A leading
surrogate must be followed at once by a trailing one, and the two are one character.

A number is its digits.  The digits are read into a significand of 64 bits.  Digits that no
longer fit are dropped: those before the point raise the power of ten, those after it do not
count.  A number without fraction and exponent whose digits all fit is whole, if it also fits
into 64 bits with its sign.  Every other number is a double: the significand, rounded to a
double, times or divided by a power of ten, with one rounding for each of the two.
-/

namespace KnowledgeGraph.Json

/-! ## Texts -/

/-- A piece of a text in quotes. -/
inductive Piece where
  /-- A character. -/
  | char (c : Char)
  /-- A UTF-16 unit, escaped by four digits. -/
  | unit (u : Nat)

/-- Whether a UTF-16 unit is the first half of a pair. -/
def isLeading (u : Nat) : Bool := 0xD800 ≤ u && u ≤ 0xDBFF

/-- Whether a UTF-16 unit is the second half of a pair. -/
def isTrailing (u : Nat) : Bool := 0xDC00 ≤ u && u ≤ 0xDFFF

/-- The character of a surrogate pair. -/
def pairChar (u v : Nat) : Char := Char.ofNat (0x10000 + (u - 0xD800) * 0x400 + (v - 0xDC00))

/-- The characters of a text in quotes.  `cut` is the fault at which the text stops. -/
def decodePieces (cut : Option Fault) : List Piece → Except Fault (List Char)
  | [] => do
      raise cut
      return []
  | .char c :: ps => return c :: (← decodePieces cut ps)
  | .unit u :: ps =>
      if isTrailing u then .error .malformed
      else if isLeading u then
        match ps with
        | .unit v :: rest =>
            if isTrailing v then return pairChar u v :: (← decodePieces cut rest)
            else .error .malformed
        | .char _ :: _ => .error .malformed
        | [] => .error (cut.getD .malformed)
      else return Char.ofNat u :: (← decodePieces cut ps)

/-! ## Numbers -/

/-- A number as it is written. -/
structure Numeral where
  /-- Whether a minus sign stands in front. -/
  negative : Bool
  /-- The digits before the point. -/
  whole : List Nat
  /-- The digits after the point, if there is one. -/
  fraction : Option (List Nat)
  /-- The sign and the digits of the exponent, if there is one. -/
  exponent : Option (Bool × List Nat)

/-- Reads digits into a significand while they fit.  The answer holds the significand and how
many digits went into it. -/
def absorbDigits (significand : Nat) : List Nat → Nat × Nat
  | [] => (significand, 0)
  | d :: ds =>
      if significand * 10 + d < Number.wordCount then
        let (s, n) := absorbDigits (significand * 10 + d) ds
        (s, n + 1)
      else (significand, 0)

/-- The number that digits stand for. -/
def ofDigits (ds : List Nat) : Nat := ds.foldl (fun n d => n * 10 + d) 0

/-- The double nearest to a power of ten, for exponents up to 308. -/
def powerOfTen (e : Nat) : Float := Float.ofScientific 1 false e

/-- A double divided by `10 ^ e`, in steps of at most 308. -/
def divideByPower (x : Float) (e : Nat) : Float :=
  if e ≤ 308 then x / powerOfTen e
  else if x == 0 then x
  else divideByPower (x / powerOfTen 308) (e - 308)
termination_by e

/-- The double `significand * 10 ^ exponent`.  One too large for a double is `malformed`. -/
def scaled (significand : Nat) (exponent : Int) : Except Fault Float :=
  let x := (UInt64.ofNat significand).toFloat
  if significand = 0 then .ok x
  else if exponent < 0 then .ok (divideByPower x exponent.natAbs)
  else if 308 < exponent then .error .malformed
  else
    let y := x * powerOfTen exponent.natAbs
    if Number.isFinite y then .ok y else .error .malformed

/-- A whole number within 64 bits, or the double it is otherwise. -/
def wholeValue (negative : Bool) (significand : Nat) : Json :=
  if !negative then .int significand
  else if 0 < significand ∧ Number.IsSigned (-significand) then .int (-significand)
  else .float (-(UInt64.ofNat significand).toFloat)

/-- The value of a number. -/
def Numeral.value (n : Numeral) : Except Fault Json :=
  let (s, taken) := absorbDigits 0 n.whole
  let dropped := n.whole.length - taken
  if n.fraction.isNone && n.exponent.isNone && dropped == 0 then .ok (wholeValue n.negative s)
  else do
    let (s, after) := absorbDigits s (n.fraction.getD [])
    let written : Int :=
      match n.exponent with
      | none => 0
      | some (negative, ds) => if negative then -(ofDigits ds : Int) else ofDigits ds
    let x ← scaled s (written + dropped - after)
    return .float (if n.negative then -x else x)

end KnowledgeGraph.Json
