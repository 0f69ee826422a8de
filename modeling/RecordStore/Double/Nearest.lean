import RecordStore.Double.Basic

/-!
# The double nearest to a decimal

A decimal is rounded to the nearest double, a tie going to the double with
the even significand, and a number too large for any double to an infinity.
The quotient is counted in units of the least positive double and rounded at
the last bit that its double can hold; counted so, subnormal doubles are no
special case, and a carry out of the significand lands in the exponent bits,
where it belongs.
-/

namespace RecordStore.Double

/-- The whole number nearest to a quotient; a tie goes to the even one. -/
def roundQuotient (numerator denominator : Nat) : Nat :=
  let quotient := numerator / denominator
  let doubled := 2 * (numerator % denominator)
  if doubled < denominator then
    quotient
  else if denominator < doubled then
    quotient + 1
  else
    quotient + quotient % 2

/-- The double nearest to a quotient of natural numbers, with a sign. -/
def ofQuotient (negative : Bool) (numerator denominator : Nat) : Double :=
  let scaled := numerator * unitsPerOne
  let dropped := Nat.log2 (scaled / denominator) - 52
  let kept := roundQuotient scaled (denominator * Nat.pow 2 dropped)
  ofMagnitudeBits negative (min infinityBits (dropped * Nat.pow 2 52 + kept))

/-- Decimals from here on are nearest to an infinity. -/
def greatestDecimalExponent : Nat := 309

/-- Decimals below ten to the negative of this are nearest to zero. -/
def leastDecimalExponent : Nat := 330

/--
The double nearest to `digits * 10 ^ exponent`, with a sign.

Exponents that settle the answer by themselves are caught first, so that no
power of ten grows beyond the range of doubles.
-/
def ofDecimal (negative : Bool) (digits : Nat) (exponent : Int) : Double :=
  match exponent with
  | .ofNat power =>
      if digits = 0 then
        zero negative
      else if greatestDecimalExponent ≤ power then
        infinity negative
      else
        ofQuotient negative (digits * Nat.pow 10 power) 1
  | .negSucc power =>
      if leastDecimalExponent + Nat.log2 digits < power then
        zero negative
      else
        ofQuotient negative digits (Nat.pow 10 (power + 1))

end RecordStore.Double
