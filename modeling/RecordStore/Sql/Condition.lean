import RecordStore.Junction
import RecordStore.Operator
import RecordStore.Sql.Truth

/-!
# Conditions of SQL

A condition is what stands after `WHERE`.  It is a tree over an arbitrary
type of operands, since its text shows a `?` for each operand and nothing
else of it: the operands in order are the parameters that are bound to the
placeholders.  Parentheses are nodes of the tree, so that the tree says how
its text reads.

The meaning of a condition is a truth value, computed from the meanings of
its comparisons and null tests.
-/

namespace RecordStore.Sql

/-- A condition with operands of some type. -/
inductive Condition (α : Type) where
  | compare (column : String) (comparison : Comparison) (operand : α)
  | member (column : String) (negated : Bool) (operands : List α)
  | isNull (column : String) (negated : Bool)
  | and (left right : Condition α)
  | or (left right : Condition α)
  | paren (inner : Condition α)
  deriving BEq, DecidableEq, Repr

/-- What the atoms of conditions mean: how columns compare with operands, and which are null. -/
structure Interpretation (α : Type) where
  compare : String → Comparison → α → Truth
  isNull : String → Bool

namespace Interpretation

/-- The outcome of looking for a column among operands: it equals one of them, or none. -/
def member
    {α : Type}
    (interpretation : Interpretation α)
    (column : String)
    (negated : Bool)
    (operands : List α) :
    Truth :=
  Truth.negateIf negated
    (Truth.any (operands.map (interpretation.compare column .equal)))

/-- The outcome of testing a column for null, or for not being null. -/
def nullity
    {α : Type}
    (interpretation : Interpretation α)
    (column : String)
    (negated : Bool) :
    Truth :=
  Truth.negateIf negated (Truth.ofBool (interpretation.isNull column))

end Interpretation

namespace Condition

variable {α β : Type}

/-- The condition with its operands replaced. -/
def map (f : α → β) : Condition α → Condition β
  | compare column comparison operand => compare column comparison (f operand)
  | member column negated operands => member column negated (operands.map f)
  | isNull column negated => isNull column negated
  | and left right => and (left.map f) (right.map f)
  | or left right => or (left.map f) (right.map f)
  | paren inner => paren (inner.map f)

/-- The operands from left to right. -/
def operands : Condition α → List α
  | compare _ _ operand => [operand]
  | member _ _ operands => operands
  | isNull _ _ => []
  | and left right => left.operands ++ right.operands
  | or left right => left.operands ++ right.operands
  | paren inner => inner.operands

/-- The columns that a condition names, from left to right. -/
def columns : Condition α → List String
  | compare column _ _ => [column]
  | member column _ _ => [column]
  | isNull column _ => [column]
  | and left right => left.columns ++ right.columns
  | or left right => left.columns ++ right.columns
  | paren inner => inner.columns

/-- The outcome of a condition. -/
def eval (interpretation : Interpretation α) : Condition α → Truth
  | compare column comparison operand =>
      interpretation.compare column comparison operand
  | member column negated operands =>
      interpretation.member column negated operands
  | isNull column negated => interpretation.nullity column negated
  | and left right =>
      (left.eval interpretation).and (right.eval interpretation)
  | or left right =>
      (left.eval interpretation).or (right.eval interpretation)
  | paren inner => inner.eval interpretation

/-- The keyword of a membership test. -/
def memberKeyword (negated : Bool) : String :=
  if negated then "NOT IN" else "IN"

/-- The keywords of a null test. -/
def nullKeyword (negated : Bool) : String :=
  if negated then "IS NOT NULL" else "IS NULL"

/-- Placeholders with commas between them. -/
def placeholders : Nat → List Char
  | 0 => []
  | 1 => ['?']
  | count + 2 => '?' :: ',' :: ' ' :: placeholders (count + 1)

/-- The characters of a condition. -/
def write : Condition α → List Char
  | compare column comparison _ =>
      column.toList ++ ' ' :: comparison.symbol.toList ++ [' ', '?']
  | member column negated operands =>
      column.toList ++ ' ' :: (memberKeyword negated).toList ++
        ' ' :: '(' :: placeholders operands.length ++ [')']
  | isNull column negated =>
      column.toList ++ ' ' :: (nullKeyword negated).toList
  | and left right => left.write ++ " AND ".toList ++ right.write
  | or left right => left.write ++ " OR ".toList ++ right.write
  | paren inner => '(' :: inner.write ++ [')']

/-- The text of a condition. -/
def text (condition : Condition α) : String :=
  String.ofList condition.write

/-- Two conditions joined by a junction. -/
def join (junction : Junction) (left right : Condition α) : Condition α :=
  match junction with
  | .and => and left right
  | .or => or left right

/-- Conditions joined by a junction from the left, if there are any. -/
def joinAll? (junction : Junction) : List (Condition α) → Option (Condition α)
  | [] => none
  | first :: rest => some (rest.foldl (join junction) first)

/-- The text of a condition shows nothing of its operands. -/
@[simp]
theorem write_map (f : α → β) (condition : Condition α) :
    (condition.map f).write = condition.write := by
  induction condition with
  | compare | isNull => rfl
  | member => simp [map, write]
  | and left right leftSame rightSame
  | or left right leftSame rightSame =>
      simp [map, write, leftSame, rightSame]
  | paren inner same => simp [map, write, same]

/-- Replacing operands replaces the parameters, one by one. -/
@[simp]
theorem operands_map (f : α → β) (condition : Condition α) :
    (condition.map f).operands = condition.operands.map f := by
  induction condition with
  | compare | member | isNull => rfl
  | and left right leftSame rightSame
  | or left right leftSame rightSame =>
      simp [map, operands, leftSame, rightSame]
  | paren inner same => simpa [map, operands] using same

end Condition

end RecordStore.Sql
