import RecordStore.Database.Table

/-!
# Plans

A plan is a way of going through a table in search of rows: all of them, or
only those whose ids are known, or first those that one condition selects
and then those that another one does.  A plan decides in which order rows
are found; which of them are wanted is for a condition to say.

Main statement: a plan meets each row that it finds once, `visit_perm`.
-/

namespace RecordStore

open Sql (Condition)

/-- A way of going through a table. -/
inductive Plan where
  | nothing
  | scan
  | lookup (operands : List Value)
  | branch (condition : Condition Value) (inner others : Plan)
  deriving DecidableEq, Repr

namespace Plan

/-- A row has the id that an operand stands for. -/
def addresses (row : Row) (operand : Value) : Bool :=
  Affinity.wholeNumber? (Cell.ofValue operand) == some row.id

/-- A row is found by a plan. -/
def finds (table : Table) (row : Row) : Plan → Bool
  | nothing => false
  | scan => true
  | lookup operands => operands.any (addresses row)
  | branch condition inner others =>
      (table.selects (some condition) row && inner.finds table row) ||
        others.finds table row

/-- The rows that a plan finds, in the order in which it meets them. -/
def visit (table : Table) : Plan → List Row → List Row
  | nothing, _ => []
  | scan, rows => rows
  | lookup operands, rows => rows.filter fun row => operands.any (addresses row)
  | branch condition inner others, rows =>
      let met (row : Row) : Bool :=
        table.selects (some condition) row && inner.finds table row
      inner.visit table (rows.filter (table.selects (some condition))) ++
        others.visit table (rows.filter fun row => !met row)

/-- The rows of which one test or another holds, apart. -/
theorem filter_append_filter_perm
    (first second : Row → Bool)
    (rows : List Row) :
    (rows.filter first ++
        (rows.filter fun row => !first row).filter second).Perm
      (rows.filter fun row => first row || second row) := by
  induction rows with
  | nil => simp
  | cons row rest same =>
      cases isFirst : first row with
      | true => simpa [isFirst] using same.cons row
      | false =>
          cases isSecond : second row with
          | true =>
              simpa [isFirst, isSecond] using
                List.perm_middle.trans (same.cons row)
          | false => simpa [isFirst, isSecond] using same

/-- A plan meets each row that it finds once. -/
theorem visit_perm (table : Table) (plan : Plan) (rows : List Row) :
    (plan.visit table rows).Perm (rows.filter fun row => plan.finds table row) := by
  induction plan generalizing rows with
  | nothing => simp [visit, finds]
  | scan =>
      exact List.Perm.of_eq (List.filter_eq_self.2 fun _ _ => rfl).symm
  | lookup operands => simp [visit, finds]
  | branch condition inner others innerMeets othersMeet =>
      simp only [visit, finds]
      refine List.Perm.trans ?_ (filter_append_filter_perm _ _ rows)
      refine List.Perm.append ?_ (othersMeet _)
      refine (innerMeets _).trans ?_
      rw [List.filter_filter]
      refine List.Perm.of_eq (List.filter_congr fun row _ => ?_)
      rw [Bool.and_comm]

end Plan

end RecordStore
