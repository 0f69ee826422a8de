import RecordStore.Double.Shortest
import RecordStore.Proofs.Double.Basic

/-!
# The numbers that round to a double

Every quotient in the interval of a double is rounded to that double.  The
bits that rounding drops are those by which the significand of the double is
scaled; only just below a power of two it drops one bit less, and the carry
out of the significand brings the exponent back.

Main statements: `ofQuotient_of_holds` and `ofDecimal_of_holds`.
-/

namespace RecordStore.Double

/-! ## Rounding -/

/-- A number within a half of a quotient is what the quotient is rounded to, if even at the half. -/
theorem roundQuotient_eq
    {numerator denominator nearest : Nat}
    (positive : 0 < denominator)
    (lower : 2 * (nearest * denominator) ≤ 2 * numerator + denominator)
    (upper : 2 * numerator ≤ 2 * (nearest * denominator) + denominator)
    (lowerTie :
      2 * (nearest * denominator) = 2 * numerator + denominator → nearest % 2 = 0)
    (upperTie :
      2 * numerator = 2 * (nearest * denominator) + denominator → nearest % 2 = 0) :
    roundQuotient numerator denominator = nearest := by
  have isSum := Nat.div_add_mod numerator denominator
  have isRest := Nat.mod_lt numerator positive
  rw [Nat.mul_comm] at isSum
  have notAbove : numerator / denominator ≤ nearest := by
    by_contra above
    have more := Nat.mul_le_mul_right denominator (Nat.lt_of_not_le above)
    rw [Nat.succ_mul] at more
    omega
  have notBelow : nearest ≤ numerator / denominator + 1 := by
    by_contra below
    have more := Nat.mul_le_mul_right denominator (Nat.lt_of_not_le below)
    rw [Nat.succ_mul, Nat.succ_mul] at more
    omega
  rw [roundQuotient]
  rcases Nat.lt_or_eq_of_le notBelow with isQuotient | isNext
  · have same : nearest = numerator / denominator := by omega
    subst same
    split
    · rfl
    · split
      · omega
      · have even := upperTie (by omega)
        omega
  · subst isNext
    rw [Nat.add_mul, Nat.one_mul] at lower upper lowerTie
    split
    · omega
    · split
      · rfl
      · have even := lowerTie (by omega)
        omega

/-- The same in quarters: half a step above, and as much or less below. -/
theorem roundQuotient_of_quarters
    {scaled step nearest below : Nat}
    (positive : 0 < step)
    (atMost : below ≤ 2)
    (low : (4 * nearest - below) * step ≤ 4 * scaled)
    (high : 4 * scaled ≤ (4 * nearest + 2) * step)
    (ties :
      nearest % 2 ≠ 0 →
        (4 * nearest - below) * step ≠ 4 * scaled ∧ 4 * scaled ≠ (4 * nearest + 2) * step) :
    roundQuotient scaled step = nearest := by
  have lowStep : 4 * (nearest * step) ≤ (4 * nearest - below) * step + 2 * step := by
    rw [← Nat.add_mul, ← Nat.mul_assoc]
    exact Nat.mul_le_mul_right step (by omega)
  have highStep : (4 * nearest + 2) * step = 4 * (nearest * step) + 2 * step := by
    rw [Nat.add_mul, Nat.mul_assoc]
  apply roundQuotient_eq positive
  · omega
  · omega
  · intro isTie
    by_contra odd
    exact (ties odd).1 (by omega)
  · intro isTie
    by_contra odd
    exact (ties odd).2 (by omega)

/-! ## The parts of a double -/

variable {value : Double}

theorem fractionField_lt (value : Double) : value.fractionField < 2 ^ 52 := by
  rw [fractionField, Nat.pow_eq]
  exact Nat.mod_lt _ (by decide)

theorem significand_lt (value : Double) : value.significand < 2 ^ 53 := by
  have small := value.fractionField_lt
  rw [significand, Nat.pow_eq]
  split <;> omega

/-- A finite double is put together from its sign, its scale and its significand. -/
theorem ofMagnitudeBits_significand (value : Double) :
    ofMagnitudeBits value.isNegative (value.scale * 2 ^ 52 + value.significand) = value := by
  have isBits :
      (if value.isNegative then
          2 ^ 63 + (value.exponentField * 2 ^ 52 + value.fractionField)
        else
          value.exponentField * 2 ^ 52 + value.fractionField) =
        value.bits.toNat := by
    have small : value.bits.toNat < 2 ^ 64 := value.bits.toNat_lt
    simp only [isNegative, exponentField, fractionField, Nat.pow_eq, decide_eq_true_eq]
    split <;> omega
  have isLow :
      value.scale * 2 ^ 52 + value.significand =
        value.exponentField * 2 ^ 52 + value.fractionField := by
    rw [scale, significand, Nat.pow_eq]
    split
    · next isZero => rw [isZero]
    · omega
  rw [isLow, ofMagnitudeBits, Nat.pow_eq, isBits, UInt64.ofNat_toNat]

theorem low_lt_infinityBits (isFinite : value.isFinite = true) :
    value.scale * 2 ^ 52 + value.significand < infinityBits := by
  have small := value.fractionField_lt
  rw [Double.isFinite, decide_eq_true_iff] at isFinite
  rw [scale, significand]
  simp only [infinityBits, Nat.pow_eq]
  split <;> omega

/-- A double that is scaled has the leading bit of its significand. -/
theorem significand_of_scale_pos (isScaled : 0 < value.scale) :
    value.significand = 2 ^ 52 + value.fractionField ∧ 1 < value.exponentField := by
  rw [scale] at isScaled
  rw [significand, Nat.pow_eq, if_neg (by omega)]
  exact ⟨rfl, by omega⟩

/-! ## Quotients in an interval -/

/-- A quotient lies in an interval. -/
structure Interval.Holds (range : Interval) (numerator denominator : Nat) : Prop where
  low_le : range.low * denominator ≤ numerator * range.denominator
  le_high : numerator * range.denominator ≤ range.high * denominator
  low_lt : range.closed = false → range.low * denominator ≠ numerator * range.denominator
  lt_high : range.closed = false → numerator * range.denominator ≠ range.high * denominator

/-- Whether a quotient lies in an interval depends on its value alone. -/
theorem Interval.Holds.of_mul_eq
    {range : Interval}
    {numerator denominator other otherDenominator : Nat}
    (holds : range.Holds numerator denominator)
    (positive : 0 < denominator)
    (otherPositive : 0 < otherDenominator)
    (same : other * denominator = numerator * otherDenominator) :
    range.Holds other otherDenominator := by
  have isLow : range.low * otherDenominator * denominator =
      range.low * denominator * otherDenominator := Nat.mul_right_comm _ _ _
  have isHigh : range.high * otherDenominator * denominator =
      range.high * denominator * otherDenominator := Nat.mul_right_comm _ _ _
  have isMiddle : other * range.denominator * denominator =
      numerator * range.denominator * otherDenominator := by
    rw [Nat.mul_right_comm, same, Nat.mul_right_comm]
  constructor
  · apply Nat.le_of_mul_le_mul_right _ positive
    rw [isLow, isMiddle]
    exact Nat.mul_le_mul_right _ holds.low_le
  · apply Nat.le_of_mul_le_mul_right _ positive
    rw [isHigh, isMiddle]
    exact Nat.mul_le_mul_right _ holds.le_high
  · intro isOpen isEnd
    apply holds.low_lt isOpen
    apply Nat.eq_of_mul_eq_mul_right otherPositive
    rw [← isLow, isEnd, isMiddle]
  · intro isOpen isEnd
    apply holds.lt_high isOpen
    apply Nat.eq_of_mul_eq_mul_right otherPositive
    rw [← isHigh, ← isEnd, isMiddle]

/-- How many quarters of a step of the significand belong to a double on its lower side. -/
def below (value : Double) : Nat :=
  if value.fractionField = 0 ∧ 1 < value.exponentField then 1 else 2

theorem below_eq_or (value : Double) :
    value.below = 2 ∨ (value.below = 1 ∧ value.significand = 2 ^ 52 ∧ 1 < value.exponentField) := by
  rw [below]
  split
  · next isPower =>
      right
      refine ⟨rfl, ?_, isPower.2⟩
      rw [significand, if_neg (by omega), isPower.1, Nat.pow_eq]
      rfl
  · exact .inl rfl

theorem below_le (value : Double) : value.below ≤ 2 := by
  rcases value.below_eq_or with isTwo | ⟨isOne, _⟩ <;> omega

theorem low_interval (value : Double) :
    value.interval.low = (4 * value.significand - value.below) * 2 ^ value.scale := by
  rw [← Nat.pow_eq]
  rfl

theorem middle_interval (value : Double) :
    value.interval.middle = 4 * value.significand * 2 ^ value.scale := by
  rw [← Nat.pow_eq]
  rfl

theorem high_interval (value : Double) :
    value.interval.high = (4 * value.significand + 2) * 2 ^ value.scale := by
  rw [← Nat.pow_eq]
  rfl

section Quotient

variable {numerator denominator : Nat}

/-- What it means to lie in the interval, in units of the least positive double. -/
theorem holds_iff :
    value.interval.Holds numerator denominator ↔
      (4 * value.significand - value.below) * (denominator * 2 ^ value.scale) ≤
          4 * (numerator * unitsPerOne) ∧
        4 * (numerator * unitsPerOne) ≤
            (4 * value.significand + 2) * (denominator * 2 ^ value.scale) ∧
          (value.significand % 2 ≠ 0 →
            (4 * value.significand - value.below) * (denominator * 2 ^ value.scale) ≠
                4 * (numerator * unitsPerOne) ∧
              4 * (numerator * unitsPerOne) ≠
                (4 * value.significand + 2) * (denominator * 2 ^ value.scale)) := by
  have isLow :
      value.interval.low * denominator =
        (4 * value.significand - value.below) * (denominator * 2 ^ value.scale) := by
    rw [low_interval, Nat.mul_assoc, Nat.mul_comm denominator]
  have isHigh :
      value.interval.high * denominator =
        (4 * value.significand + 2) * (denominator * 2 ^ value.scale) := by
    rw [high_interval, Nat.mul_assoc, Nat.mul_comm denominator]
  have isMiddle :
      numerator * value.interval.denominator = 4 * (numerator * unitsPerOne) := by
    rw [interval, Nat.mul_left_comm]
  have isOpen : value.interval.closed = false ↔ value.significand % 2 ≠ 0 := by
    show (value.significand % 2 == 0) = false ↔ _
    rw [beq_eq_false_iff_ne]
  constructor
  · rintro ⟨low, high, lowTie, highTie⟩
    rw [isLow, isMiddle] at low lowTie
    rw [isHigh, isMiddle] at high highTie
    exact ⟨low, high, fun odd => ⟨lowTie (isOpen.mpr odd), highTie (isOpen.mpr odd)⟩⟩
  · rintro ⟨low, high, ties⟩
    constructor
    · exact isLow.trans_le (low.trans_eq isMiddle.symm)
    · exact isMiddle.trans_le (high.trans_eq isHigh.symm)
    · intro isOdd same
      exact (ties (isOpen.mp isOdd)).1 (isLow.symm.trans (same.trans isMiddle))
    · intro isOdd same
      exact (ties (isOpen.mp isOdd)).2 (isMiddle.symm.trans (same.trans isHigh))

/-- A quotient of this size has as many bits to drop. -/
theorem log2_sub_eq
    {quotient dropped : Nat}
    (small : quotient < 2 ^ (53 + dropped))
    (large : dropped = 0 ∨ 2 ^ (52 + dropped) ≤ quotient) :
    Nat.log2 quotient - 52 = dropped := by
  by_cases isZero : quotient = 0
  · subst isZero
    rcases large with none | large
    · rw [none]
      decide
    · exact absurd large (Nat.not_le.mpr (Nat.two_pow_pos _))
  · have fewer := (Nat.log2_lt isZero).mpr small
    rcases large with none | large
    · omega
    · have enough := (Nat.le_log2 isZero).mpr large
      omega

theorem ofQuotient_eq
    {dropped kept : Nat}
    (positive : 0 < denominator)
    (small : numerator * unitsPerOne < 2 ^ 53 * (denominator * 2 ^ dropped))
    (large : dropped = 0 ∨ 2 ^ 52 * (denominator * 2 ^ dropped) ≤ numerator * unitsPerOne)
    (isKept : roundQuotient (numerator * unitsPerOne) (denominator * 2 ^ dropped) = kept)
    (negative : Bool) :
    ofQuotient negative numerator denominator =
      ofMagnitudeBits negative (min infinityBits (dropped * 2 ^ 52 + kept)) := by
  have isDropped : Nat.log2 (numerator * unitsPerOne / denominator) - 52 = dropped := by
    apply log2_sub_eq
    · rw [Nat.div_lt_iff_lt_mul positive, Nat.pow_add, Nat.mul_assoc, Nat.mul_comm _ denominator]
      exact small
    · refine large.imp id fun large => ?_
      rw [Nat.le_div_iff_mul_le positive, Nat.pow_add, Nat.mul_assoc, Nat.mul_comm _ denominator]
      exact large
  rw [ofQuotient]
  simp only [Nat.pow_eq, isDropped, isKept]

/-- What is rounded up past the least number of its scale is rounded to a power of two. -/
theorem significand_of_low
    (isScaled : 0 < value.scale)
    {scaled step : Nat}
    (low : (4 * value.significand - value.below) * step ≤ 4 * scaled)
    (small : scaled < 2 ^ 52 * step) :
    value.below = 1 ∧ value.significand = 2 ^ 52 := by
  rcases significand_of_scale_pos isScaled with ⟨isNormal, isLarge⟩
  have isBelow : 4 * value.significand - value.below < 4 * 2 ^ 52 := by
    by_contra enough
    have more := Nat.mul_le_mul_right step (Nat.not_lt.mp enough)
    rw [Nat.mul_assoc] at more
    omega
  rcases value.below_eq_or with isTwo | ⟨isOne, isSignificand, _⟩
  · have isZero : value.fractionField = 0 := by omega
    rw [below, if_pos ⟨isZero, isLarge⟩] at isTwo
    exact absurd isTwo (by decide)
  · exact ⟨isOne, isSignificand⟩

/-- A quotient in the interval of a double is rounded to it. -/
theorem ofQuotient_of_holds
    (isFinite : value.isFinite = true)
    (positive : 0 < denominator)
    (holds : value.interval.Holds numerator denominator) :
    ofQuotient value.isNegative numerator denominator = value := by
  rcases holds_iff.mp holds with ⟨low, high, ties⟩
  have fits := value.significand_lt
  have isLess := low_lt_infinityBits isFinite
  have isRounded (dropped kept : Nat)
      (same : dropped * 2 ^ 52 + kept = value.scale * 2 ^ 52 + value.significand) :
      ofMagnitudeBits value.isNegative (min infinityBits (dropped * 2 ^ 52 + kept)) = value := by
    rw [same, Nat.min_eq_right (Nat.le_of_lt isLess), ofMagnitudeBits_significand]
  have stepPositive : 0 < denominator * 2 ^ value.scale :=
    Nat.mul_pos positive (Nat.two_pow_pos _)
  by_cases isUsual :
      value.scale = 0 ∨ 2 ^ 52 * (denominator * 2 ^ value.scale) ≤ numerator * unitsPerOne
  · -- The quotient has as many bits to drop as the significand is scaled by.
    refine (ofQuotient_eq positive ?_ isUsual ?_ _).trans (isRounded _ _ rfl)
    · have larger := Nat.mul_lt_mul_of_pos_right (show 4 * value.significand + 2 < 4 * 2 ^ 53 by omega)
        stepPositive
      rw [Nat.mul_assoc] at larger
      omega
    · exact roundQuotient_of_quarters stepPositive value.below_le low high ties
  · -- The double is a power of two, and the quotient lies below it.
    rw [not_or, Nat.not_le] at isUsual
    rcases Nat.exists_eq_add_one_of_ne_zero isUsual.1 with ⟨dropped, isScale⟩
    have isPower := significand_of_low (Nat.pos_of_ne_zero isUsual.1) low isUsual.2
    have isDouble : denominator * 2 ^ value.scale = 2 * (denominator * 2 ^ dropped) := by
      rw [isScale, Nat.pow_succ, Nat.mul_comm _ 2, Nat.mul_left_comm]
    have halfPositive : 0 < denominator * 2 ^ dropped :=
      Nat.mul_pos positive (Nat.two_pow_pos _)
    rw [isPower.1, isPower.2, isDouble] at low
    rw [isDouble] at isUsual
    have isNext := isUsual.2
    have isKept :
        roundQuotient (numerator * unitsPerOne) (denominator * 2 ^ dropped) = 2 ^ 53 := by
      refine roundQuotient_of_quarters halfPositive (Nat.le_refl 2) ?_ ?_ ?_
      · omega
      · omega
      · exact fun odd => absurd rfl odd
    have halved :=
      ofQuotient_eq positive (by omega) (.inr (by omega)) isKept value.isNegative
    exact halved.trans (isRounded dropped (2 ^ 53) (by omega))

end Quotient

/-! ## Decimals in an interval -/

section Decimal

variable {digits : Nat}

theorem scale_le (isFinite : value.isFinite = true) : value.scale ≤ 2045 := by
  rw [Double.isFinite, decide_eq_true_iff] at isFinite
  rw [scale]
  omega

/-- No decimal that is caught as too great lies in the interval of a finite double. -/
theorem lt_of_holds
    (isFinite : value.isFinite = true)
    (holds : value.interval.Holds digits 1) :
    digits < 10 ^ greatestDecimalExponent := by
  have isGreat : ∃ bound, bound = 1024 ∧ 2 ^ bound ≤ 10 ^ greatestDecimalExponent :=
    ⟨_, rfl, by decide +kernel⟩
  rcases isGreat with ⟨bound, isBound, isGreat⟩
  rcases exists_unitsPerOne_eq with ⟨exponent, isExponent, units⟩
  have high := (holds_iff.mp holds).2.1
  have fits := value.significand_lt
  rw [Nat.one_mul, units] at high
  refine Nat.lt_of_lt_of_le ?_ isGreat
  by_contra enough
  have large : 2 ^ (2 + (bound + exponent)) ≤ 4 * (digits * 2 ^ exponent) := by
    rw [Nat.pow_add, Nat.pow_add]
    exact Nat.mul_le_mul_left 4 (Nat.mul_le_mul_right _ (Nat.not_lt.mp enough))
  have small : (4 * value.significand + 2) * 2 ^ value.scale < 2 ^ (55 + value.scale) := by
    rw [Nat.pow_add]
    exact Nat.mul_lt_mul_of_pos_right (by omega) (Nat.two_pow_pos _)
  have fewBits := scale_le isFinite
  have moreBits := (Nat.pow_lt_pow_iff_right (by decide)).mp
    (Nat.lt_of_le_of_lt (large.trans high) small)
  omega

/-- Nor does one that is caught as too small, unless the double is zero. -/
theorem le_of_holds
    {power : Nat}
    (nonzero : 0 < value.significand)
    (holds : value.interval.Holds digits (10 ^ power)) :
    digits ≠ 0 ∧ power ≤ leastDecimalExponent + Nat.log2 digits + 1 := by
  have isSmall : ∃ bound, bound = 1074 ∧ 2 ^ bound ≤ 10 ^ leastDecimalExponent :=
    ⟨_, rfl, by decide +kernel⟩
  rcases isSmall with ⟨bound, isBound, isSmall⟩
  rcases exists_unitsPerOne_eq with ⟨exponent, isExponent, units⟩
  have low := (holds_iff.mp holds).1
  rw [units, isExponent, ← isBound] at low
  have atMost : value.below ≤ 2 := by
    rcases value.below_eq_or with isTwo | ⟨isOne, _⟩ <;> omega
  have positive : 2 * 10 ^ power ≤ 4 * (digits * 2 ^ bound) := by
    refine Nat.le_trans ?_ low
    exact
      Nat.mul_le_mul (by omega) (Nat.le_mul_of_pos_right _ (Nat.two_pow_pos _))
  have powerPositive : 0 < 10 ^ power := Nat.pow_pos (by decide)
  have isNonzero : digits ≠ 0 := by
    rintro rfl
    omega
  refine ⟨isNonzero, ?_⟩
  by_contra enough
  have fewer : digits < 10 ^ (Nat.log2 digits + 1) :=
    Nat.lt_of_lt_of_le Nat.lt_log2_self (Nat.pow_le_pow_left (by decide) _)
  have product :
      digits * 2 ^ bound < 10 ^ (Nat.log2 digits + 1) * 10 ^ leastDecimalExponent :=
    Nat.mul_lt_mul_of_lt_of_le fewer isSmall (Nat.pow_pos (by decide))
  have larger :
      10 ^ 1 * (10 ^ (Nat.log2 digits + 1) * 10 ^ leastDecimalExponent) ≤ 10 ^ power := by
    rw [← Nat.pow_add, ← Nat.pow_add]
    exact Nat.pow_le_pow_right (by decide) (by omega)
  omega

/-- A decimal in the interval of a double is read as that double. -/
theorem ofDecimal_of_holds
    (isFinite : value.isFinite = true)
    (nonzero : 0 < value.significand)
    {exponent : Int}
    (holds :
      value.interval.Holds (digits * 10 ^ exponent.toNat) (10 ^ (-exponent).toNat)) :
    ofDecimal value.isNegative digits exponent = value := by
  cases exponent with
  | ofNat power =>
      have noFraction : (-Int.ofNat power).toNat = 0 := by simp
      rw [noFraction] at holds
      have isWhole : value.interval.Holds (digits * 10 ^ power) (10 ^ 0) := holds
      have isNonzero := (le_of_holds nonzero isWhole).1
      have notGreat := lt_of_holds isFinite isWhole
      have digitsNonzero : digits ≠ 0 := fun isZero => isNonzero (by rw [isZero, Nat.zero_mul])
      have fewPowers : ¬ greatestDecimalExponent ≤ power := by
        intro many
        have larger := Nat.pow_le_pow_right (show 0 < 10 by decide) many
        have times := Nat.le_mul_of_pos_left (10 ^ power) (Nat.pos_of_ne_zero digitsNonzero)
        exact absurd notGreat (Nat.not_lt.mpr (larger.trans times))
      have isQuotient :
          ofDecimal value.isNegative digits (.ofNat power) =
            ofQuotient value.isNegative (digits * Nat.pow 10 power) 1 := by
        rw [ofDecimal]
        simp only [if_neg digitsNonzero, if_neg fewPowers]
      rw [isQuotient, Nat.pow_eq]
      exact ofQuotient_of_holds isFinite Nat.one_pos isWhole
  | negSucc power =>
      have isFraction : value.interval.Holds (digits * 10 ^ 0) (10 ^ (power + 1)) := holds
      rw [Nat.pow_zero, Nat.mul_one] at isFraction
      have fewPowers := (le_of_holds nonzero isFraction).2
      have isQuotient :
          ofDecimal value.isNegative digits (.negSucc power) =
            ofQuotient value.isNegative digits (Nat.pow 10 (power + 1)) := by
        rw [ofDecimal]
        exact if_neg (by omega)
      rw [isQuotient, Nat.pow_eq]
      exact ofQuotient_of_holds isFinite (Nat.pow_pos (by decide)) isFraction

/-- Zero is read as zero, whatever its exponent. -/
theorem ofDecimal_zero (negative : Bool) (exponent : Int) :
    ofDecimal negative 0 exponent = zero negative := by
  cases exponent with
  | ofNat power => rfl
  | negSucc power =>
      rw [ofDecimal]
      split
      · rfl
      · have positive : 0 < Nat.pow 10 (power + 1) := Nat.pow_pos (by decide)
        have isKept : roundQuotient (0 * unitsPerOne) (Nat.pow 10 (power + 1) * 2 ^ 0) = 0 := by
          rw [Nat.zero_mul, Nat.pow_zero, Nat.mul_one]
          exact roundQuotient_eq positive (by omega) (by omega) (fun _ => rfl) fun _ => rfl
        refine (ofQuotient_eq positive ?_ (.inl rfl) isKept negative).trans rfl
        rw [Nat.zero_mul]
        exact Nat.mul_pos (by decide) (Nat.mul_pos positive Nat.one_pos)

/-- A double without significand is a zero. -/
theorem eq_zero_of_significand (isZero : value.significand = 0) :
    zero value.isNegative = value := by
  have noScale : value.scale = 0 := by
    by_contra isScaled
    have isNormal := (significand_of_scale_pos (Nat.pos_of_ne_zero isScaled)).1
    omega
  have isValue := ofMagnitudeBits_significand value
  rwa [isZero, noScale, Nat.zero_mul] at isValue

end Decimal

end RecordStore.Double
