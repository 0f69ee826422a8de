/-!
# Binary floating-point numbers

A double is kept as its 64 bits, so that two doubles are equal exactly when
they are written alike: `-0.0` differs from `0.0`.  Every finite double is a
whole multiple of the least positive one, and `units` is that multiple.
Infinities get the multiple that their bits spell out, which lies beyond
those of all finite doubles; on everything but a NaN, `units` therefore
carries the order of the numbers.
-/

namespace RecordStore

/-- A double, as its bits: one of sign, eleven of exponent, 52 of fraction. -/
structure Double where
  bits : UInt64
  deriving DecidableEq, Repr

namespace Double

/-- The exponent bits, as a number below 2048. -/
def exponentField (value : Double) : Nat :=
  value.bits.toNat / Nat.pow 2 52 % Nat.pow 2 11

/-- The fraction bits, as a number below 2 to the 52nd. -/
def fractionField (value : Double) : Nat :=
  value.bits.toNat % Nat.pow 2 52

/-- The sign bit is set. -/
def isNegative (value : Double) : Bool :=
  Nat.pow 2 63 ≤ value.bits.toNat

/-- Neither an infinity nor a NaN. -/
def isFinite (value : Double) : Bool :=
  value.exponentField < 2047

/-- Not a number. -/
def isNaN (value : Double) : Bool :=
  value.exponentField == 2047 && value.fractionField != 0

/-- The whole factor of a double, with the leading bit that normal doubles leave unwritten. -/
def significand (value : Double) : Nat :=
  if value.exponentField = 0 then
    value.fractionField
  else
    Nat.pow 2 52 + value.fractionField

/-- The power of two by which the significand counts in units of the least positive double. -/
def scale (value : Double) : Nat :=
  value.exponentField - 1

/-- The magnitude in units of the least positive double. -/
def magnitude (value : Double) : Nat :=
  value.significand * Nat.pow 2 value.scale

/-- The number in units of the least positive double. -/
def units (value : Double) : Int :=
  if value.isNegative then
    -(value.magnitude : Int)
  else
    (value.magnitude : Int)

/-- How many units make up the number one. -/
def unitsPerOne : Nat := Nat.pow 2 1074

/-- The double with a sign and the low 63 bits given. -/
def ofMagnitudeBits (negative : Bool) (low : Nat) : Double :=
  ⟨UInt64.ofNat (if negative then Nat.pow 2 63 + low else low)⟩

/-- The low 63 bits of an infinity. -/
def infinityBits : Nat := 2047 * Nat.pow 2 52

/-- Zero, with a sign. -/
def zero (negative : Bool) : Double :=
  ofMagnitudeBits negative 0

/-- Infinity, with a sign. -/
def infinity (negative : Bool) : Double :=
  ofMagnitudeBits negative infinityBits

end Double

end RecordStore
