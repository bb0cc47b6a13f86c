import KnowledgeGraph.Number.Binary64

/-!
# The shortest digits of a double

A double is written with the fewest decimal digits that read back as the same double.  The
reals that round to a double form an interval around it, which contains its ends when the
mantissa is even.  For one digit, two digits and so on up to seventeen, the two multiples of
the power of ten next to the value are tried.  The first count of digits with a multiple in
the interval wins.  Of two multiples the nearer one is taken.

`Decimal.render` writes such digits in a layout.  A layout says between which exponents the
digits stand in positional notation, whether a whole number carries `.0`, and which of two
multiples is taken when both are equally near.
-/

namespace KnowledgeGraph.Number

/-- A decimal number `0.d₁d₂… * 10 ^ (point)`: its digits, and the place of the point counted
from the first digit. -/
structure Decimal where
  /-- Whether a minus sign is written. -/
  negative : Bool
  /-- The digits, the first one first. -/
  digits : List Nat
  /-- The number of digits before the point, which may be negative. -/
  point : Int
deriving DecidableEq

/-! ## Finding the digits -/

/-- The interval of the reals that round to a positive double, and the double, all counted in
units of `2 ^ exponent`. -/
structure Interval where
  /-- The lower end. -/
  low : Nat
  /-- The value of the double. -/
  value : Nat
  /-- The upper end. -/
  high : Nat
  /-- The power of two of the unit. -/
  exponent : Int
  /-- Whether the ends belong to the interval. -/
  closed : Bool

/-- The interval of a double that is not zero. -/
def Interval.ofDyadic (d : Dyadic) : Interval :=
  let m := d.mantissa
  let low := if m = hiddenBit ∧ -1074 < d.exponent then 4 * m - 1 else 4 * m - 2
  ⟨low, 4 * m, 4 * m + 2, d.exponent - 2, m % 2 == 0⟩

/-- Whether `n * 10 ^ k` lies in an interval. -/
def Interval.holds (i : Interval) (n : Nat) (k : Int) : Bool :=
  let scaled := (n * Nat.pow 10 k.toNat) <<< (-i.exponent).toNat
  let unit := Nat.pow 10 (-k).toNat <<< i.exponent.toNat
  if i.closed then i.low * unit ≤ scaled && scaled ≤ i.high * unit
  else i.low * unit < scaled && scaled < i.high * unit

/-- The value of an interval as a fraction of `10 ^ k`. -/
def Interval.fraction (i : Interval) (k : Int) : Nat × Nat :=
  ((i.value * Nat.pow 10 (-k).toNat) <<< i.exponent.toNat,
    Nat.pow 10 k.toNat <<< (-i.exponent).toNat)

/-- The multiple of `10 ^ k` for an interval: of the two next to the value, one that lies in
the interval, and the nearer one if both do. -/
def Interval.pick? (i : Interval) (half : Halfway) (k : Int) : Option Nat :=
  let (num, den) := i.fraction k
  let below := num / den
  match i.holds below k && below != 0, i.holds (below + 1) k with
  | true, true => some (roundDiv half num den)
  | true, false => some below
  | false, true => some (below + 1)
  | false, false => none

/-- Tries digit counts from `count` on, at most `tries` of them.  `point` is the place of the
point. -/
def Interval.search (i : Interval) (half : Halfway) (point : Int) : Nat → Nat → Nat × Int
  | 0, _ => (0, 0)
  | tries + 1, count =>
      let k := point - count
      match i.pick? half k with
      | some n => (n, k)
      | none => i.search half point tries (count + 1)

/-- The decimal digits of a whole number, the first one first. -/
def digitsOf (n : Nat) : List Nat := (Nat.toDigits 10 n).map fun c => c.toNat - 48

/-- The digits of a list without the zeros at its end. -/
def dropTrailingZeros (ds : List Nat) : List Nat := (ds.reverse.dropWhile (· == 0)).reverse

/-- The least place of the point, from `point` on, that leaves no digit before the first one:
the least `p` with `num < den * 10 ^ p`. -/
def pointFrom (num den : Nat) : Nat → Int → Int
  | 0, point => point
  | tries + 1, point =>
      if num * Nat.pow 10 (-point).toNat < den * Nat.pow 10 point.toNat then point
      else pointFrom num den tries (point + 1)

/-- The place of the point in the decimal expansion of a double that is not zero. -/
def pointOf (d : Dyadic) : Int :=
  let size : Int := d.mantissa.log2 + d.exponent
  let guess := size * 30103 / 100000 - 1
  pointFrom (d.mantissa <<< d.exponent.toNat) (1 <<< (-d.exponent).toNat) 5 guess

/-- The shortest digits of the value of a double. -/
def Decimal.shortest (half : Halfway) (d : Dyadic) : Decimal :=
  if d.mantissa = 0 then ⟨d.negative, [0], 1⟩
  else
    let (n, k) := (Interval.ofDyadic d).search half (pointOf d) 17 1
    let digits := digitsOf n
    ⟨d.negative, dropTrailingZeros digits, digits.length + k⟩

/-! ## Writing the digits -/

/-- How digits are written. -/
structure Layout where
  /-- The least and greatest exponent of the first digit in positional notation, or nothing
  if every number is written so. -/
  positional : Option (Int × Int)
  /-- Whether a whole number carries `.0`. -/
  pointed : Bool
  /-- Which of two equally near decimals is written, by their magnitude. -/
  half : Halfway

/-- The character of a digit. -/
def digitChar (d : Nat) : Char := Char.ofNat (48 + d)

/-- Digits in positional notation. -/
def Decimal.positional (d : Decimal) (pointed : Bool) : List Char :=
  let ds := d.digits.map digitChar
  if d.point ≤ 0 then '0' :: '.' :: List.replicate (-d.point).toNat '0' ++ ds
  else
    let before := d.point.toNat
    if ds.length ≤ before then
      ds ++ List.replicate (before - ds.length) '0' ++ if pointed then ['.', '0'] else []
    else ds.take before ++ '.' :: ds.drop before

/-- Digits with an exponent, whose sign is always written. -/
def Decimal.scientific (d : Decimal) : List Char :=
  let exponent := d.point - 1
  let ds := d.digits.map digitChar
  let mantissa := if ds.length ≤ 1 then ds else ds.take 1 ++ '.' :: ds.drop 1
  mantissa ++ 'e' :: (if exponent < 0 then '-' else '+') :: Nat.toDigits 10 exponent.natAbs

/-- Digits in a layout. -/
def Decimal.render (layout : Layout) (d : Decimal) : List Char :=
  let body :=
    match layout.positional with
    | none => d.positional layout.pointed
    | some (least, greatest) =>
        if least ≤ d.point - 1 ∧ d.point - 1 ≤ greatest then d.positional layout.pointed
        else d.scientific
  if d.negative then '-' :: body else body

/-- A finite double in a layout, and nothing for one that is not finite. -/
def renderFloat? (layout : Layout) (x : Float) : Option String :=
  (Dyadic.ofFloat? x).map fun d => String.ofList ((Decimal.shortest layout.half d).render layout)

example : Decimal.shortest .even ⟨false, 3602879701896397, -55⟩ = ⟨false, [1], 0⟩ := by
  decide +kernel
example : Decimal.shortest .even ⟨true, 1, -1074⟩ = ⟨true, [5], -323⟩ := by decide +kernel
-- the double 161.646148681640625, halfway between two decimals of 17 digits
example : (Decimal.shortest .even ⟨false, 5687418241941504, -45⟩).digits.getLast? = some 2 ∧
    (Decimal.shortest .greater ⟨false, 5687418241941504, -45⟩).digits.getLast? = some 3 := by
  decide +kernel
example : (Decimal.mk false [1, 5] 23).scientific = "1.5e+22".toList := by decide +kernel
example : (Decimal.mk false [1] (-4)).positional true = "0.00001".toList := by decide +kernel

end KnowledgeGraph.Number
