/-!
# The exact value of a double

A finite double is a whole number times a power of two.  `Dyadic.ofFloat?` reads the two off
the bits of the double, so everything that must be exact about it (its digits, its whole
part, its rounding to a fixed number of places) is arithmetic on integers.
-/

namespace KnowledgeGraph.Number

/-- The number `mantissa * 2 ^ exponent`, with a sign.  Zero has a sign too. -/
structure Dyadic where
  /-- Whether the number is below zero, or the zero with a minus sign. -/
  negative : Bool
  /-- The whole factor. -/
  mantissa : Nat
  /-- The power of two. -/
  exponent : Int
deriving DecidableEq

/-- The bit that stands before the 52 bits of a fraction without being stored, `2 ^ 52`. -/
def hiddenBit : Nat := 0x10000000000000

/-- The number that 64 bits in the layout of a double stand for, if they stand for one. -/
def Dyadic.ofBits? (bits : Nat) : Option Dyadic :=
  let fraction := bits % hiddenBit
  let field : Nat := bits / hiddenBit % 2048
  let negative := bits / (2048 * hiddenBit) == 1
  if field = 2047 then none
  else if field = 0 then some ⟨negative, fraction, -1074⟩
  else some ⟨negative, hiddenBit + fraction, (field : Int) - 1075⟩

/-- The value of a double, if it is finite. -/
def Dyadic.ofFloat? (x : Float) : Option Dyadic := Dyadic.ofBits? x.toBits.toNat

/-- Whether a double is neither infinite nor without a value. -/
def isFinite (x : Float) : Bool := (Dyadic.ofFloat? x).isSome

/-- The magnitude without its fraction. -/
def Dyadic.wholePart (d : Dyadic) : Nat :=
  if 0 ≤ d.exponent then d.mantissa <<< d.exponent.toNat
  else d.mantissa >>> (-d.exponent).toNat

/-- The whole number that is reached by dropping the fraction. -/
def Dyadic.truncate (d : Dyadic) : Int :=
  if d.negative then -(d.wholePart : Int) else d.wholePart

/-- The neighbour that a quotient halfway between two whole numbers goes to. -/
inductive Halfway where
  /-- The even one. -/
  | even
  /-- The greater one. -/
  | greater
deriving DecidableEq

/-- The quotient rounded to the nearest whole number. -/
def roundDiv (half : Halfway) (num den : Nat) : Nat :=
  let q := num / den
  let r := num % den
  if 2 * r < den then q
  else if den < 2 * r then q + 1
  else match half with
    | .even => if q % 2 = 0 then q else q + 1
    | .greater => q + 1

/-- The magnitude times `10 ^ places`, rounded to a whole number.  A half goes to the even
one. -/
def Dyadic.scaledRound (d : Dyadic) (places : Nat) : Nat :=
  if 0 ≤ d.exponent then (d.mantissa <<< d.exponent.toNat) * Nat.pow 10 places
  else roundDiv .even (d.mantissa * Nat.pow 10 places) (1 <<< (-d.exponent).toNat)

example : roundDiv .even 5 2 = 2 ∧ roundDiv .greater 5 2 = 3 := by decide
example : Dyadic.ofBits? 0x3FF8000000000000 = some ⟨false, 3 * 2 ^ 51, -52⟩ := by decide
example : (Dyadic.mk true 7 (-1)).truncate = -3 := by decide
example : (Dyadic.mk false 125 (-2)).scaledRound 1 = 312 := by decide

end KnowledgeGraph.Number
