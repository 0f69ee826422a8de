import Mathlib.Tactic.Ring
import RecordStore.Proofs.Double.Interval

/-!
# The shortest decimal lies in the interval

The grids that are searched become finer with every digit.  On the grid with
seventeen digits the steps are shorter than the interval of the double, so
that one of its two neighbours lies in the interval at the latest then.

Main statement: `holds_shortest`.
-/

namespace RecordStore.Double

/-! ## Powers of ten below a quotient -/

theorem lt_pow_digitCount (number : Nat) : number < 10 ^ digitCount number := by
  have positive : 0 < digitCount number := Nat.length_toDigits_pos
  exact (Nat.length_toDigits_le_iff (by decide) positive).mp (Nat.le_refl _)

theorem pow_digitCount_le
    {number : Nat}
    (nonzero : 0 < number) :
    10 ^ (digitCount number - 1) ≤ number := by
  by_cases isSingle : digitCount number - 1 = 0
  · rw [isSingle]
    exact nonzero
  · by_contra less
    have fewer :=
      (Nat.length_toDigits_le_iff (by decide) (Nat.pos_of_ne_zero isSingle)).mpr
        (Nat.not_le.mp less)
    rw [digitCount] at fewer isSingle
    omega

/-- The power of ten that is found is not above the quotient. -/
theorem decimalExponent_le
    {numerator denominator : Nat}
    (positive : 0 < denominator)
    (nonzero : 0 < numerator) :
    denominator * 10 ^ (decimalExponent numerator denominator).toNat ≤
      numerator * 10 ^ (-decimalExponent numerator denominator).toNat := by
  rw [decimalExponent]
  split
  · next large =>
      have isQuotient : 0 < numerator / denominator := Nat.div_pos large positive
      have counted : 0 < digitCount (numerator / denominator) := Nat.length_toDigits_pos
      have noFraction : (-((digitCount (numerator / denominator) : Int) - 1)).toNat = 0 := by omega
      have isPower :
          ((digitCount (numerator / denominator) : Int) - 1).toNat =
            digitCount (numerator / denominator) - 1 := by
        omega
      rw [noFraction, isPower, Nat.pow_zero, Nat.mul_one]
      calc
        denominator * 10 ^ (digitCount (numerator / denominator) - 1) ≤
            denominator * (numerator / denominator) :=
          Nat.mul_le_mul_left _ (pow_digitCount_le isQuotient)
        _ ≤ numerator := Nat.mul_div_le numerator denominator
  · dsimp only
    have counted : 0 < digitCount (denominator / numerator) := Nat.length_toDigits_pos
    split
    · next reached =>
        have isPower : (1 - (digitCount (denominator / numerator) : Int)).toNat = 0 := by omega
        have isFraction :
            (-(1 - (digitCount (denominator / numerator) : Int))).toNat =
              digitCount (denominator / numerator) - 1 := by
          omega
        rw [isPower, isFraction, Nat.pow_zero, Nat.mul_one]
        exact reached
    · have isPower : (-(digitCount (denominator / numerator) : Int)).toNat = 0 := by omega
      have isFraction :
          (- -(digitCount (denominator / numerator) : Int)).toNat =
            digitCount (denominator / numerator) := by
        omega
      rw [isPower, isFraction, Nat.pow_zero, Nat.mul_one]
      have bounded :=
        (Nat.div_lt_iff_lt_mul nonzero).mp (lt_pow_digitCount (denominator / numerator))
      rw [Nat.mul_comm]
      exact Nat.le_of_lt bounded

/-! ## Neighbours on a grid -/

/-- A quotient that is found in an interval lies in it. -/
theorem Interval.holds_of_contains
    {range : Interval}
    {number up down : Nat}
    (isContained :
      Interval.contains
          ⟨range.low * down, range.middle * down, range.high * down, range.denominator,
            range.closed⟩
          (number * (range.denominator * up)) = true) :
    range.Holds (number * up) down := by
  have isProduct : number * up * range.denominator = number * (range.denominator * up) := by
    rw [Nat.mul_assoc, Nat.mul_comm up]
  rw [Interval.contains] at isContained
  dsimp only at isContained
  split at isContained
  · next isClosed =>
      simp only [Bool.and_eq_true, decide_eq_true_eq] at isContained
      constructor
      · rw [isProduct]
        exact isContained.1
      · rw [isProduct]
        exact isContained.2
      · intro isOpen
        rw [isClosed] at isOpen
        contradiction
      · intro isOpen
        rw [isClosed] at isOpen
        contradiction
  · simp only [Bool.and_eq_true, decide_eq_true_eq] at isContained
    constructor
    · rw [isProduct]
      exact Nat.le_of_lt isContained.1
    · rw [isProduct]
      exact Nat.le_of_lt isContained.2
    · rw [isProduct]
      exact fun _ => Nat.ne_of_lt isContained.1
    · rw [isProduct]
      exact fun _ => Nat.ne_of_lt isContained.2

theorem holds_of_gridNeighbour?
    {range : Interval}
    {exponent : Int}
    {neighbour : Nat}
    (found : gridNeighbour? range exponent = some neighbour) :
    range.Holds (neighbour * 10 ^ exponent.toNat) (10 ^ (-exponent).toNat) := by
  rw [gridNeighbour?] at found
  simp only [Nat.pow_eq] at found
  split at found
  · next lowerFits =>
      cases found
      exact Interval.holds_of_contains (Bool.and_eq_true_iff.mp lowerFits).1
  · split at found
    · next upperFits =>
        cases found
        exact Interval.holds_of_contains upperFits
    · contradiction

namespace Interval

variable {range : Interval} {numerator : Nat}

theorem outside_of_contains_eq_false (outside : range.contains numerator = false) :
    numerator ≤ range.low ∨ range.high ≤ numerator := by
  rw [contains] at outside
  split at outside
  all_goals
    simp only [Bool.and_eq_false_iff, decide_eq_false_iff_not] at outside
    omega

end Interval

/-- Where no neighbour is found, both are outside of the interval. -/
theorem contains_of_gridNeighbour?_eq_none
    {range : Interval}
    {exponent : Int}
    (isNone : gridNeighbour? range exponent = none) :
    let up := 10 ^ exponent.toNat
    let down := 10 ^ (-exponent).toNat
    let scaled : Interval :=
      ⟨range.low * down, range.middle * down, range.high * down, range.denominator, range.closed⟩
    let step := range.denominator * up
    let lower := range.middle * down / step
    scaled.contains (lower * step) = false ∧ scaled.contains ((lower + 1) * step) = false := by
  intro up down scaled step lower
  rw [gridNeighbour?] at isNone
  simp only [Nat.pow_eq] at isNone
  split at isNone
  · contradiction
  · next lowerFails =>
      split at isNone
      · contradiction
      · next upperFails =>
          rw [Bool.not_eq_true] at upperFails
          rw [upperFails, Bool.not_false, Bool.or_true, Bool.and_true,
            Bool.not_eq_true] at lowerFails
          exact ⟨lowerFails, upperFails⟩

/-- A grid whose steps are shorter than the interval has a neighbour in it. -/
theorem isSome_gridNeighbour?
    {range : Interval}
    {exponent : Int}
    (low_lt : range.low < range.middle)
    (lt_high : range.middle < range.high)
    (positive : 0 < range.denominator)
    (isFine :
      range.denominator * 10 ^ exponent.toNat < (range.high - range.low) * 10 ^ (-exponent).toNat) :
    (gridNeighbour? range exponent).isSome = true := by
  by_contra notSome
  rw [Option.not_isSome_iff_eq_none] at notSome
  rcases contains_of_gridNeighbour?_eq_none notSome with ⟨lowerFails, upperFails⟩
  have upPositive : 0 < 10 ^ exponent.toNat := Nat.pow_pos (by decide)
  have downPositive : 0 < 10 ^ (-exponent).toNat := Nat.pow_pos (by decide)
  generalize 10 ^ exponent.toNat = up at *
  generalize 10 ^ (-exponent).toNat = down at *
  have stepPositive : 0 < range.denominator * up := Nat.mul_pos positive upPositive
  generalize range.denominator * up = step at *
  have isSum := Nat.div_add_mod (range.middle * down) step
  have isRest := Nat.mod_lt (range.middle * down) stepPositive
  have lowScaled := Nat.mul_lt_mul_of_pos_right low_lt downPositive
  have highScaled := Nat.mul_lt_mul_of_pos_right lt_high downPositive
  rw [Nat.sub_mul] at isFine
  rw [Nat.mul_comm] at isSum
  rw [Nat.add_mul, Nat.one_mul] at upperFails
  generalize range.middle * down / step * step = lower at *
  have lowerOutside := Interval.outside_of_contains_eq_false lowerFails
  have upperOutside := Interval.outside_of_contains_eq_false upperFails
  dsimp only at lowerOutside upperOutside
  omega

/-- The search ends on a grid with a neighbour, if there is one at the end. -/
theorem gridNeighbour?_searchGrids
    {range : Interval}
    {leading : Int}
    {fuel digits : Nat}
    (last : (gridNeighbour? range (leading - (digits + fuel : Nat) + 1)).isSome = true) :
    gridNeighbour? range (searchGrids range leading fuel digits).exponent =
      some (searchGrids range leading fuel digits).digits := by
  induction fuel generalizing digits with
  | zero =>
      rcases Option.isSome_iff_exists.mp last with ⟨neighbour, found⟩
      rw [searchGrids]
      dsimp only
      rw [Nat.add_zero] at found
      rw [found, Option.getD_some]
  | succ fuel induction =>
      rw [searchGrids]
      split
      · next neighbour found => exact found
      · apply induction
        rwa [Nat.add_right_comm, Nat.add_assoc]

/-! ## The shortest decimal -/

section Shortest

variable {value : Double}

theorem below_pos (value : Double) : 0 < value.below := by
  rcases value.below_eq_or with isTwo | ⟨isOne, _⟩ <;> omega

theorem significand_lt_steps (value : Double) :
    4 * value.significand < (value.below + 2) * 10 ^ 16 := by
  have fits := value.significand_lt
  rcases value.below_eq_or with isTwo | ⟨isOne, isPower, _⟩
  · rw [isTwo]
    omega
  · rw [isOne, isPower]
    decide

/-- A step of the grid with seventeen digits is shorter than the interval. -/
theorem step_lt_width
    {denominator : Nat}
    {leading : Int}
    (isPower :
      denominator * 10 ^ leading.toNat ≤
        4 * value.significand * 2 ^ value.scale * 10 ^ (-leading).toNat) :
    denominator * 10 ^ (leading - (1 + 16 : Nat) + 1).toNat <
      (value.below + 2) * 2 ^ value.scale * 10 ^ (-(leading - (1 + 16 : Nat) + 1)).toNat := by
  have sameTens :
      10 ^ (leading - (1 + 16 : Nat) + 1).toNat * (10 ^ (-leading).toNat * 10 ^ 16) =
        10 ^ leading.toNat * 10 ^ (-(leading - (1 + 16 : Nat) + 1)).toNat := by
    rw [← Nat.pow_add, ← Nat.pow_add, ← Nat.pow_add]
    congr 1
    omega
  have factorPositive : 0 < 2 ^ value.scale := Nat.two_pow_pos _
  generalize 10 ^ (leading - (1 + 16 : Nat) + 1).toNat = up at *
  have downPositive : 0 < 10 ^ (-(leading - (1 + 16 : Nat) + 1)).toNat :=
    Nat.pow_pos (by decide)
  generalize 10 ^ (-(leading - (1 + 16 : Nat) + 1)).toNat = down at *
  have unitPositive : 0 < 10 ^ (-leading).toNat := Nat.pow_pos (by decide)
  generalize 10 ^ (-leading).toNat = unit at *
  refine Nat.lt_of_mul_lt_mul_right (a := unit * 10 ^ 16) ?_
  calc
    denominator * up * (unit * 10 ^ 16) =
        denominator * 10 ^ leading.toNat * down := by
      rw [Nat.mul_assoc, sameTens, Nat.mul_assoc]
    _ ≤ 4 * value.significand * 2 ^ value.scale * unit * down :=
      Nat.mul_le_mul_right down isPower
    _ = 4 * value.significand * (2 ^ value.scale * unit * down) := by
      rw [Nat.mul_assoc, Nat.mul_assoc, Nat.mul_assoc (2 ^ value.scale)]
    _ < (value.below + 2) * 10 ^ 16 * (2 ^ value.scale * unit * down) :=
      Nat.mul_lt_mul_of_pos_right value.significand_lt_steps
        (Nat.mul_pos (Nat.mul_pos factorPositive unitPositive) downPositive)
    _ = (value.below + 2) * 2 ^ value.scale * down * (unit * 10 ^ 16) := by
      ring

theorem isSome_gridNeighbour?_interval (nonzero : 0 < value.significand) :
    (gridNeighbour? value.interval
      (decimalExponent value.interval.middle value.interval.denominator - (1 + 16 : Nat) +
        1)).isSome = true := by
  have factorPositive : 0 < 2 ^ value.scale := Nat.two_pow_pos _
  have isBelow := value.below_pos
  have atMost := value.below_le
  have positive : 0 < value.interval.denominator := Nat.mul_pos (by decide) unitsPerOne_pos
  have middlePositive : 0 < value.interval.middle := by
    rw [middle_interval]
    exact Nat.mul_pos (by omega) factorPositive
  have isPower := decimalExponent_le positive middlePositive
  generalize decimalExponent value.interval.middle value.interval.denominator = leading at isPower
  apply isSome_gridNeighbour?
  · rw [low_interval, middle_interval]
    exact Nat.mul_lt_mul_of_pos_right (by omega) factorPositive
  · rw [middle_interval, high_interval]
    exact Nat.mul_lt_mul_of_pos_right (by omega) factorPositive
  · exact positive
  · have isWidth :
        value.interval.high - value.interval.low = (value.below + 2) * 2 ^ value.scale := by
      rw [high_interval, low_interval, ← Nat.sub_mul]
      congr 1
      omega
    rw [isWidth]
    rw [middle_interval] at isPower
    exact step_lt_width isPower

/-- The shortest decimal of a double lies in its interval. -/
theorem holds_shortest (nonzero : 0 < value.significand) :
    value.interval.Holds
      (value.shortest.digits * 10 ^ value.shortest.exponent.toNat)
      (10 ^ (-value.shortest.exponent).toNat) :=
  holds_of_gridNeighbour? (gridNeighbour?_searchGrids (isSome_gridNeighbour?_interval nonzero))

end Shortest

end RecordStore.Double
