/-!
# Estimates

What a way of going through a table is expected to cost.  Large quantities
are known only roughly, as ten times their binary logarithm, so that a
product is a sum, and the sum of two quantities is a little more than the
larger one.
-/

namespace RecordStore

/-- What is expected of a way of going through a table, in logarithms. -/
structure Estimate where
  work : Int
  rows : Int
  deriving DecidableEq, Repr

namespace Estimate

/-- The logarithms of the eighths from 8 to 15, less that of 8. -/
def eighths : List Int := [0, 2, 3, 5, 6, 7, 8, 9]

/-- The logarithm of a number. -/
def logarithm (number : Nat) : Int :=
  if number < 2 then
    0
  else
    let power := Nat.log2 number
    eighths.getD (number * 8 / Nat.pow 2 power % 8) 0 + 10 * power

/-- How much the sum exceeds the larger of two quantities, by how far they are apart. -/
def surpluses : List Int :=
  [10, 10, 9, 9, 8, 8, 7, 7, 7, 6, 6, 6, 5, 5, 5, 4, 4, 4, 4,
    3, 3, 3, 3, 3, 3, 2, 2, 2, 2, 2, 2, 2]

/-- From here on quantities are so far apart that the smaller one does not count. -/
def vanishingGap : Int := 50

/-- The logarithm of the sum of two quantities. -/
def sum (left right : Int) : Int :=
  let larger := max left right
  let gap := larger - min left right
  if gap < vanishingGap then
    larger + surpluses.getD gap.toNat 1
  else
    larger

/-- The number of rows that a table is taken to have. -/
def tableRows : Int := 200

/-- The work of finding a row by its id. -/
def seekWork : Int := 43

/-- The work on one row. -/
def rowWork : Int := 16

/-- How much a bound on the ids shrinks the number of rows. -/
def boundShrinkage : Int := 20

/-- How much an equation that is not used for the search shrinks the number of rows at least. -/
def equationShrinkage : Int := 20

/-- Going through a number of rows after finding the first. -/
def walking (rows : Int) : Estimate :=
  ⟨sum seekWork (rows + rowWork), rows⟩

/-- Going through the whole table. -/
def whole : Estimate :=
  ⟨tableRows + rowWork, tableRows⟩

/-- Looking up one row. -/
def single : Estimate :=
  walking 0

/-- Looking up a number of rows. -/
def several (count : Nat) : Estimate :=
  ⟨single.work + logarithm count, single.rows + logarithm count⟩

/-- Going through the rows on one side of an id. -/
def oneSided : Estimate :=
  walking (tableRows - boundShrinkage)

/-- Going through the rows between two ids. -/
def twoSided : Estimate :=
  walking (tableRows - 3 * boundShrinkage)

/-- One way after the other. -/
def add (first second : Estimate) : Estimate :=
  ⟨sum first.work second.work, sum first.rows second.rows⟩

/-- Several ways one after the other; keeping them apart costs a little. -/
def addAll : List Estimate → Option Estimate
  | [] => none
  | first :: rest =>
      let total := rest.foldl add first
      some ⟨total.work + 1, total.rows⟩

/--
The estimate when some conditions are not used for the search: each of them
leaves out a few rows, and an equation most of them.
-/
def reduce (estimate : Estimate) (unused : Nat) (leavesEquation : Bool) : Estimate :=
  let most := if leavesEquation then tableRows - equationShrinkage else tableRows
  ⟨estimate.work, min most (estimate.rows - unused)⟩

/-- The first is better: less work, or as much work and fewer rows. -/
def isBetter (first second : Estimate) : Bool :=
  first.work < second.work || first.work == second.work && first.rows < second.rows

/-- The lower estimate of a way that can be gone in two manners. -/
def lower (known : Option Estimate) (next : Estimate) : Option Estimate :=
  match known with
  | none => some next
  | some known =>
      if next.work ≤ known.work then some ⟨next.work, min next.rows known.rows⟩ else some known

end Estimate

end RecordStore
