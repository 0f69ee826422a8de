import RecordStore.Double.Shortest

/-!
# Doubles with a fixed number of digits

The decimal with a given number of significant digits that is nearest to a
double.  A half is rounded up, and a carry out of the first digit leaves one
digit more, the last of which is then zero.
-/

namespace RecordStore.Double

/-- The decimal with as many digits that is nearest to the magnitude of a double, not zero. -/
def rounded (value : Double) (count : Nat) : Decimal :=
  let exponent := decimalExponent value.magnitude unitsPerOne - count + 1
  let numerator := value.magnitude * Nat.pow 10 (-exponent).toNat
  let denominator := unitsPerOne * Nat.pow 10 exponent.toNat
  ⟨(2 * numerator + denominator) / (2 * denominator), exponent⟩

end RecordStore.Double
