import Mathlib.Algebra.Order.Ring.Nat
import RecordStore.Double.Nearest

/-!
# The bits of doubles

A double is put together from its sign and its other bits.  Among the other
bits those of the infinities are the greatest that rounding leads to, so that a
rounded number is never a NaN, and it is finite unless it is too large.

Main statement: `isFinite_ofDecimal_of_lt`.
-/

namespace RecordStore.Double

variable {negative : Bool} {low : Nat}

theorem toNat_ofMagnitudeBits (small : low < 2 ^ 63) :
    (ofMagnitudeBits negative low).bits.toNat = if negative then 2 ^ 63 + low else low := by
  rw [ofMagnitudeBits, UInt64.toNat_ofNat', Nat.pow_eq]
  split <;> omega

theorem exponentField_ofMagnitudeBits (small : low < 2 ^ 63) :
    (ofMagnitudeBits negative low).exponentField = low / 2 ^ 52 := by
  rw [exponentField, toNat_ofMagnitudeBits small, Nat.pow_eq, Nat.pow_eq]
  split <;> omega

theorem isFinite_ofMagnitudeBits (small : low < 2 ^ 63) :
    (ofMagnitudeBits negative low).isFinite = true ↔ low < infinityBits := by
  rw [isFinite, exponentField_ofMagnitudeBits small, infinityBits, Nat.pow_eq, decide_eq_true_iff]
  omega

theorem roundQuotient_le (numerator denominator : Nat) :
    roundQuotient numerator denominator ≤ numerator / denominator + 1 := by
  rw [roundQuotient]
  split
  · omega
  · split <;> omega

/-- What is kept of a number after rounding fits a significand, or is the next power of two. -/
theorem roundQuotient_shifted_le (scaled denominator : Nat) :
    roundQuotient scaled (denominator * 2 ^ (Nat.log2 (scaled / denominator) - 52)) ≤ 2 ^ 53 := by
  have below :
      scaled / denominator < 2 ^ 53 * 2 ^ (Nat.log2 (scaled / denominator) - 52) := by
    calc
      scaled / denominator < 2 ^ (Nat.log2 (scaled / denominator) + 1) := Nat.lt_log2_self
      _ ≤ 2 ^ (53 + (Nat.log2 (scaled / denominator) - 52)) :=
        Nat.pow_le_pow_right (by decide) (by omega)
      _ = _ := Nat.pow_add 2 _ _
  have kept :
      scaled / (denominator * 2 ^ (Nat.log2 (scaled / denominator) - 52)) < 2 ^ 53 := by
    rw [← Nat.div_div_eq_div_mul]
    exact Nat.div_lt_of_lt_mul (by rwa [Nat.mul_comm])
  have rounded :=
    roundQuotient_le scaled (denominator * 2 ^ (Nat.log2 (scaled / denominator) - 52))
  omega

/-- The units in one are a power of two, whose exponent is named to keep the power folded. -/
theorem exists_unitsPerOne_eq : ∃ exponent, exponent = 1074 ∧ unitsPerOne = 2 ^ exponent := by
  refine ⟨_, rfl, ?_⟩
  generalize isExponent : 1074 = exponent
  unfold unitsPerOne
  rw [isExponent]
  exact Nat.pow_eq

theorem unitsPerOne_pos : 0 < unitsPerOne := by
  rcases exists_unitsPerOne_eq with ⟨exponent, _, units⟩
  rw [units]
  exact Nat.two_pow_pos exponent

/-- A number that fits 64 bits is near to a finite double. -/
theorem isFinite_ofDecimal_of_lt
    {digits : Nat}
    (small : digits < 2 ^ 64) :
    (ofDecimal negative digits 0).isFinite = true := by
  by_cases isZero : digits = 0
  · subst isZero
    exact (isFinite_ofMagnitudeBits (by decide)).mpr (by decide)
  · have isQuotient : ofDecimal negative digits 0 = ofQuotient negative digits 1 := by
      show (if digits = 0 then _ else if _ then _ else _) = _
      rw [if_neg isZero, if_neg (by decide)]
      simp
    rcases exists_unitsPerOne_eq with ⟨exponent, isExponent, units⟩
    have scaledSmall : digits * unitsPerOne / 1 < 2 ^ (64 + exponent) := by
      rw [Nat.div_one, units, Nat.pow_add]
      exact Nat.mul_lt_mul_of_pos_right small (Nat.two_pow_pos exponent)
    have scaledPositive : digits * unitsPerOne / 1 ≠ 0 := by
      rw [Nat.div_one, units]
      exact Nat.mul_ne_zero isZero (Nat.ne_of_gt (Nat.two_pow_pos exponent))
    have fewDropped : Nat.log2 (digits * unitsPerOne / 1) < 64 + exponent :=
      (Nat.log2_lt scaledPositive).mpr scaledSmall
    have keptSmall := roundQuotient_shifted_le (digits * unitsPerOne) 1
    rw [isQuotient, ofQuotient]
    simp only [Nat.pow_eq]
    rw [isFinite_ofMagnitudeBits]
    all_goals
      simp only [infinityBits, Nat.pow_eq]
      omega

end RecordStore.Double
