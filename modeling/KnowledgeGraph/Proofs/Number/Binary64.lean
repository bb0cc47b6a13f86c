import Mathlib
import KnowledgeGraph.Number.Binary64

/-!
# Finite doubles and doubles of large whole numbers

A double has an exact value unless the bits of its exponent are all set, and just then it is finite
(`isFinite_eq`).

A whole number of more than 52 bits is rounded to 53 of them (`roundWithAccuracy_eq`), and the
result is stored with its value unless it is too large for a double (`ofBits?_pack`).  So a whole
number that 64 bits do not hold with a sign has a double that they do not hold either, or none
(`le_truncate_ofScientific`).
-/

open Float.Model Float.Model.UnpackedFloat

namespace KnowledgeGraph.Number

/-! ## Finite doubles -/

theorem toNat_unpackExponent (b : BitVec 64) :
    (@unpackExponent Format.binary64 b).toNat = b.toNat / hiddenBit % 2048 := by
  simp [unpackExponent, hiddenBit, Nat.shiftRight_eq_div_pow]

theorem isSome_ofBits? (bits : Nat) :
    (Dyadic.ofBits? bits).isSome = (bits / hiddenBit % 2048 != 2047) := by
  rw [Dyadic.ofBits?]
  by_cases special : bits / hiddenBit % 2048 = 2047
  · simp [special]
  · by_cases subnormal : bits / hiddenBit % 2048 = 0 <;> simp [special, subnormal]

/-- Only an exponent of ones stands for no number. -/
theorem isFinite_unpack (b : BitVec 64) :
    (UnpackedFloat.unpack Format.binary64 b).isFinite = (b.toNat / hiddenBit % 2048 != 2047) := by
  have ones : @unpackExponent Format.binary64 b = -BitVec.ofNat 11 1 ↔
      b.toNat / hiddenBit % 2048 = 2047 := by
    rw [← toNat_unpackExponent]
    exact BitVec.toNat_inj.symm
  rw [UnpackedFloat.unpack]
  by_cases special : b.toNat / hiddenBit % 2048 = 2047
  · simp only [if_pos (ones.2 special), special, bne_self_eq_false]
    split <;> rfl
  · simp only [if_neg (mt ones.1 special), bne_iff_ne.2 special]
    split
    · split <;> rfl
    · rfl

/-- The doubles with an exact value are the finite ones. -/
theorem isFinite_eq (x : Float) : isFinite x = x.isFinite := by
  have bits := isSome_ofBits? x.toBits.toNat
  rw [isFinite, Dyadic.ofFloat?, bits]
  exact (isFinite_unpack _).symm

/-! ## Dropping bits -/

theorem mantissa_shiftRight (x : ExtendedMantissa) (k : Nat) :
    (x >>> k).mantissa = x.mantissa / 2 ^ k := by
  induction k generalizing x with
  | zero => simp [HShiftRight.hShiftRight, Nat.repeat]
  | succ k ih =>
    show (x >>> k).mantissa / 2 = _
    rw [ih, Nat.div_div_eq_div_mul, Nat.pow_succ]

/-- Rounding goes to a neighbour. -/
theorem roundedMantissa_bounds (x : ExtendedMantissa) :
    x.mantissa ≤ x.roundedMantissa ∧ x.roundedMantissa ≤ x.mantissa + 1 := by
  obtain ⟨m, half, rest⟩ := x
  cases half <;> cases rest <;>
    simp only [ExtendedMantissa.roundedMantissa, ExtendedMantissa.accuracy,
      Accuracy.roundToNearestEven] <;> omega

/-- The leading bits of a number. -/
theorem leading_bounds {m k : Nat} (pos : m ≠ 0) (h : m.log2 = 52 + k) :
    2 ^ 52 ≤ m / 2 ^ k ∧ m / 2 ^ k < 2 ^ 53 := by
  have low := Nat.log2_self_le pos
  have high := Nat.lt_log2_self (n := m)
  rw [h, Nat.pow_add] at low
  rw [h, Nat.add_right_comm, Nat.pow_add] at high
  exact ⟨(Nat.le_div_iff_mul_le (Nat.two_pow_pos k)).2 low,
    (Nat.div_lt_iff_lt_mul (Nat.two_pow_pos k)).2 high⟩

theorem log2_eq {m : Nat} (bits : 2 ^ 52 ≤ m ∧ m < 2 ^ 53) : m.log2 = 52 :=
  (Nat.log2_eq_iff (by omega)).2 bits

theorem log2_mul_two_pow {m : Nat} (pos : m ≠ 0) (k : Nat) :
    (m * 2 ^ k).log2 = m.log2 + k := by
  induction k with
  | zero => simp
  | succ k ih =>
    have some : m * 2 ^ k ≠ 0 := Nat.mul_ne_zero pos (Nat.ne_of_gt (Nat.two_pow_pos k))
    rw [Nat.pow_succ', Nat.mul_left_comm, Nat.log2_two_mul some, ih]
    rfl

/-- Shifting to 53 bits. -/
theorem shiftToTargetExponent_eq {m k : Nat} {e : Int} (h : m.log2 = 52 + k)
    (normal : -1074 ≤ e + k) :
    ∃ x, shiftToTargetExponent Format.binary64 m e .exact = (x, e + k) ∧
      x.mantissa = m / 2 ^ k := by
  have target : (Format.binary64.targetExponent (totalExponent m e) - e).toNat = k := by
    simp only [Format.targetExponent, totalExponent, Format.mantissaBits, Format.minExponent]
    omega
  refine ⟨_, by rw [shiftToTargetExponent, shiftToExponent, target], ?_⟩
  exact mantissa_shiftRight _ k

/-- A number of 53 bits or more is rounded to one of 53 bits. -/
theorem roundWithAccuracy_eq {m k : Nat} {e : Int} (s : Sign) (pos : m ≠ 0)
    (h : m.log2 = 52 + k) (normal : -1074 ≤ e + k) :
    ∃ r e' hr, roundWithAccuracy Format.binary64 s m e .exact = .finite s r e' hr ∧
      (2 ^ 52 ≤ r ∧ r < 2 ^ 53) ∧ e + k ≤ e' := by
  obtain ⟨x, first, mantissa⟩ := shiftToTargetExponent_eq h normal
  have ⟨low, high⟩ := leading_bounds pos h
  have ⟨least, most⟩ := roundedMantissa_bounds x
  rw [mantissa] at least most
  -- Rounding up may take one bit more, which is dropped again.
  obtain ⟨j, carry, small⟩ : ∃ j, x.roundedMantissa.log2 = 52 + j ∧
      (2 ^ 52 ≤ x.roundedMantissa / 2 ^ j ∧ x.roundedMantissa / 2 ^ j < 2 ^ 53) := by
    by_cases fits : x.roundedMantissa < 2 ^ 53
    · exact ⟨0, log2_eq ⟨by omega, fits⟩, by omega⟩
    · have full : x.roundedMantissa = 2 ^ 53 := by omega
      rw [full]
      exact ⟨1, Nat.log2_two_pow, by decide⟩
  obtain ⟨y, second, final⟩ := shiftToTargetExponent_eq (e := e + k) carry (by omega)
  rw [← final] at small
  have some : y.mantissa ≠ 0 := by omega
  refine ⟨y.mantissa, e + k + j, Nat.pos_of_ne_zero some, ?_, small, by omega⟩
  simp only [roundWithAccuracy, first, second, dif_neg some]

/-! ## Packing -/

theorem toNat_packComponents (exponent : BitVec 11) (mantissa : BitVec 52) :
    (packComponents Format.binary64 .positive exponent mantissa).toNat =
      exponent.toNat * hiddenBit + mantissa.toNat := by
  have low : mantissa.toNat < 2 ^ 52 := mantissa.isLt
  show ((0#1 ++ exponent) ++ mantissa).toNat = _
  rw [BitVec.toNat_append, BitVec.toNat_append, ← Nat.shiftLeft_add_eq_or_of_lt low,
    Nat.shiftLeft_eq]
  simp [hiddenBit]

/-- A number of 53 bits is packed with its value, unless it is too large. -/
theorem ofBits?_pack {r : Nat} {e : Int} (hr : 0 < r) (bits : 2 ^ 52 ≤ r ∧ r < 2 ^ 53)
    (normal : -1074 ≤ e) :
    Dyadic.ofBits? (UnpackedFloat.pack Format.binary64 (.finite .positive r e hr)).toNat =
      if e < 972 then some ⟨false, r, e⟩ else none := by
  have ⟨low, high⟩ := bits
  have hidden : hiddenBit = 4503599627370496 := rfl
  have field : (e + Format.binary64.exponentBias +
      (Format.binary64.mantissaBitsWithoutImplicit : Nat)).toNat = (e + 1075).toNat := by
    show (e + (1023 : Nat) + (52 : Nat)).toNat = _
    omega
  have full : r.log2 + 1 = Format.binary64.mantissaBits := by
    rw [log2_eq bits]
    rfl
  rw [UnpackedFloat.pack]
  simp only [field, if_pos full]
  split
  · next large =>
    have infinite : ¬ e < 972 := by omega
    rw [packedInfinity, toNat_packComponents, if_neg infinite]
    decide
  · next small =>
    have finite : e < 972 := by omega
    rw [toNat_packComponents, if_pos finite, BitVec.toNat_ofNat, BitVec.toNat_ofNat,
      Nat.mod_eq_of_lt (by omega)]
    have fraction : ((e + 1075).toNat * hiddenBit + r % 2 ^ 52) % hiddenBit = r - hiddenBit := by
      rw [hidden]
      omega
    have exponent : ((e + 1075).toNat * hiddenBit + r % 2 ^ 52) / hiddenBit % 2048 =
        (e + 1075).toNat := by
      rw [hidden]
      omega
    have sign : ((e + 1075).toNat * hiddenBit + r % 2 ^ 52) / (2048 * hiddenBit) = 0 := by
      rw [hidden]
      omega
    rw [Dyadic.ofBits?]
    simp only [fraction, exponent, sign]
    rw [if_neg (by omega), if_neg (by omega)]
    simp only [Option.some.injEq, Dyadic.mk.injEq]
    exact ⟨rfl, by omega, by omega⟩

/-- A whole number is rounded as it is, with room for all bits of a double. -/
theorem ofScientific_eq {m : Nat} (pos : m ≠ 0) :
    UnpackedFloat.ofScientific Format.binary64 m 0 =
      roundWithAccuracy Format.binary64 .positive (m * 2 ^ 53) (-53) .exact := by
  have bits : ¬ (0 : Int) > 2 ^ 11 := by decide
  have digits : ¬ (0 : Int) < -(2 ^ 11 + (m.log2 : Int)) := by omega
  rw [UnpackedFloat.ofScientific, dif_neg pos, if_neg bits, if_neg digits,
    if_pos (Int.le_refl 0), ← Nat.shiftLeft_eq, ← Nat.mul_one (m <<< 53)]
  rfl

/-- A whole number from 2 ^ 63 on has no double, or one that is at least as large. -/
theorem le_truncate_ofScientific {m : Nat} (large : 2 ^ 63 ≤ m) {d : Dyadic}
    (h : Dyadic.ofFloat? (Float.ofScientific m false 0) = some d) : 2 ^ 63 ≤ d.truncate := by
  have pos : m ≠ 0 := by omega
  have log : 63 ≤ m.log2 := (Nat.le_log2 pos).2 large
  have shifted : (m * 2 ^ 53).log2 = 52 + (m.log2 + 1) := by
    rw [log2_mul_two_pow pos]
    omega
  obtain ⟨r, e, hr, rounded, bits, least⟩ := roundWithAccuracy_eq (e := -53) .positive
    (Nat.mul_ne_zero pos (by decide)) shifted (by omega)
  have packed : (Float.ofScientific m false 0).toBits.toNat =
      (UnpackedFloat.pack Format.binary64 (.finite .positive r e hr)).toNat := by
    have slow : ¬ (m < 2 ^ 53 ∧ 0 ≤ 22) := by omega
    rw [Float.ofScientific, dif_neg slow, ← rounded, ← ofScientific_eq pos]
    rfl
  rw [Dyadic.ofFloat?, packed, ofBits?_pack hr bits (by omega)] at h
  split at h
  · cases h
    have whole : (Dyadic.mk false r e).truncate = ((r * 2 ^ e.toNat : Nat) : Int) := by
      have above : (0 : Int) ≤ e := by omega
      rw [← Nat.shiftLeft_eq]
      exact congrArg Nat.cast (if_pos above)
    have power : 2 ^ 11 ≤ 2 ^ e.toNat := Nat.pow_le_pow_right (by decide) (by omega)
    have product : 2 ^ 52 * 2 ^ 11 ≤ r * 2 ^ e.toNat := Nat.mul_le_mul bits.1 power
    rw [whole]
    omega
  · cases h

end KnowledgeGraph.Number
