import RecordStore.Double.Basic

/-!
# The shortest decimal of a double

Of all decimals that are nearer to a double than to any other, the shortest
has the fewest digits, and of those with as few it is the nearest to the
double.  It is found on decimal grids: on the grid of decimals with one
digit, then two, and so on, the two neighbours of the double are tested for
lying in the interval of numbers that round to it.  Everything is computed
on natural numbers, in quarters of a step of the significand.
-/

namespace RecordStore

/-- A decimal `digits * 10 ^ exponent`. -/
structure Decimal where
  digits : Nat
  exponent : Int
  deriving DecidableEq, Repr

namespace Double

/-- The numbers that round to one double, as quotients over a common denominator. -/
structure Interval where
  low : Nat
  middle : Nat
  high : Nat
  denominator : Nat
  closed : Bool

/--
The interval of a finite double that is not zero.

Just below a double whose significand is a power of two the doubles lie twice
as dense, so its lower end is only half as far away; the least normal double
is the exception.  The ends belong to the interval when the significand is
even.
-/
def interval (value : Double) : Interval :=
  let factor := Nat.pow 2 value.scale
  let below :=
    if value.fractionField = 0 ∧ 1 < value.exponentField then 1 else 2
  { low := (4 * value.significand - below) * factor
    middle := 4 * value.significand * factor
    high := (4 * value.significand + 2) * factor
    denominator := 4 * unitsPerOne
    closed := value.significand % 2 == 0 }

/-- A quotient over the interval's denominator lies in the interval. -/
def Interval.contains (range : Interval) (numerator : Nat) : Bool :=
  if range.closed then
    range.low ≤ numerator && numerator ≤ range.high
  else
    range.low < numerator && numerator < range.high

/-- How many digits a number has when written in base ten. -/
def digitCount (number : Nat) : Nat :=
  (Nat.toDigits 10 number).length

/-- The exponent of the power of ten at or just below a positive quotient. -/
def decimalExponent (numerator denominator : Nat) : Int :=
  if denominator ≤ numerator then
    (digitCount (numerator / denominator) : Int) - 1
  else
    let count := digitCount (denominator / numerator)
    if denominator ≤ numerator * Nat.pow 10 (count - 1) then
      1 - (count : Int)
    else
      -(count : Int)

/--
The neighbour of the double on the grid of multiples of `10 ^ exponent` that
lies in the interval; of two, the nearer one, and in a tie the even one.
-/
def gridNeighbour? (range : Interval) (exponent : Int) : Option Nat :=
  let up := Nat.pow 10 exponent.toNat
  let down := Nat.pow 10 (-exponent).toNat
  let scaled : Interval :=
    { low := range.low * down
      middle := range.middle * down
      high := range.high * down
      denominator := range.denominator
      closed := range.closed }
  let step := range.denominator * up
  let lower := scaled.middle / step
  let rest := scaled.middle % step
  let lowerFits := scaled.contains (lower * step)
  let upperFits := scaled.contains ((lower + 1) * step)
  let lowerNearer := 2 * rest < step || 2 * rest == step && lower % 2 == 0
  if lowerFits && (lowerNearer || !upperFits) then
    some lower
  else if upperFits then
    some (lower + 1)
  else
    none

/-- Searches grids with ever more digits, starting from `digits` of them. -/
def searchGrids (range : Interval) (leading : Int) : Nat → Nat → Decimal
  | 0, digits =>
      let exponent := leading - digits + 1
      ⟨(gridNeighbour? range exponent).getD 0, exponent⟩
  | fuel + 1, digits =>
      let exponent := leading - digits + 1
      match gridNeighbour? range exponent with
      | some neighbour => ⟨neighbour, exponent⟩
      | none => searchGrids range leading fuel (digits + 1)

/-- The shortest decimal that rounds to the magnitude of a finite double that is not zero. -/
def shortest (value : Double) : Decimal :=
  let range := value.interval
  searchGrids range (decimalExponent range.middle range.denominator) 16 1

end Double

end RecordStore
