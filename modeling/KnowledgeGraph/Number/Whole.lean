/-!
# Whole numbers of 64 bits

The whole numbers that 64 bits hold, without a sign and with one.  A number outside can be
brought to the nearest bound, which leaves the numbers inside as they are.
-/

namespace KnowledgeGraph.Number

/-- How many whole numbers 64 bits tell apart. -/
def wordCount : Nat := 18446744073709551616

/-- The least whole number that 64 bits hold with a sign. -/
def leastSigned : Int := -9223372036854775808

/-- The greatest whole number that 64 bits hold with a sign. -/
def greatestSigned : Int := 9223372036854775807

/-- Whether 64 bits hold a whole number without a sign. -/
def IsUnsigned (i : Int) : Prop := 0 ≤ i ∧ i < wordCount

instance (i : Int) : Decidable (IsUnsigned i) := inferInstanceAs (Decidable (_ ∧ _))

/-- Whether 64 bits hold a whole number with a sign. -/
def IsSigned (i : Int) : Prop := leastSigned ≤ i ∧ i ≤ greatestSigned

instance (i : Int) : Decidable (IsSigned i) := inferInstanceAs (Decidable (_ ∧ _))

/-- The nearest whole number that 64 bits hold with a sign. -/
def clampSigned (i : Int) : Int := max leastSigned (min i greatestSigned)

/-- A clamped number is in range. -/
theorem isSigned_clampSigned (i : Int) : IsSigned (clampSigned i) := by
  unfold IsSigned clampSigned leastSigned greatestSigned
  omega

/-- A number in range is its own clamped number. -/
theorem clampSigned_of_isSigned {i : Int} (h : IsSigned i) : clampSigned i = i := by
  obtain ⟨low, high⟩ := h
  unfold clampSigned
  omega

end KnowledgeGraph.Number
