import RecordStore.Database.Plan.Choice
import RecordStore.Proofs.Double.Basic

/-!
# Plans find rows by their condition

Which rows a statement finds depends on its condition and on the names of the
columns.  The rows that a table happens to hold have no part in that, so that
a statement finds the same rows after others have been removed.  A plan meets
each row that it finds once, and for the id of a row it finds that row alone.

Main statements: `Table.matching_perm` and `Table.finds_identity`.
-/

namespace RecordStore

open Sql (Condition Truth)

namespace Plan

variable (table : Table) (rows : List Row)

theorem branchEstimate?_withRows (depth : Nat) :
    branchEstimate? { table with rows := rows } depth = branchEstimate? table depth := by
  induction depth with
  | zero => rfl
  | succ depth induction =>
      funext around terms
      simp only [branchEstimate?, induction]
      rfl

theorem choose_withRows (depth : Nat) (offers : List Offer) :
    choose { table with rows := rows } depth offers = choose table depth offers := by
  simp only [choose, branchEstimate?_withRows]
  rfl

theorem ofTerms_withRows
    (isStatement : Bool)
    (depth : Nat)
    (terms : List (Condition Value)) :
    ofTerms { table with rows := rows } isStatement depth terms =
      ofTerms table isStatement depth terms := by
  induction depth generalizing isStatement terms with
  | zero => rfl
  | succ depth induction =>
      simp only [ofTerms, choose_withRows, induction]
      rfl

theorem ofCondition_withRows (condition : Option (Condition Value)) :
    ofCondition { table with rows := rows } condition = ofCondition table condition := by
  cases condition with
  | none => rfl
  | some condition => exact ofTerms_withRows table rows true _ _

theorem finds_withRows (row : Row) (plan : Plan) :
    plan.finds { table with rows := rows } row = plan.finds table row := by
  induction plan with
  | nothing | scan | lookup => rfl
  | branch condition inner others innerSame othersSame =>
      simp only [finds, innerSame, othersSame]
      rfl

end Plan

namespace Table

variable (table : Table)

@[simp]
theorem finds_withRows
    (rows : List Row)
    (condition : Option (Condition Value))
    (row : Row) :
    ({ table with rows := rows } : Table).finds condition row = table.finds condition row := by
  simp only [finds, Plan.ofCondition_withRows, Plan.finds_withRows]
  rfl

/-- A statement meets the rows that it finds, each of them once. -/
theorem matching_perm (condition : Option (Condition Value)) :
    (table.matching condition).Perm (table.rows.filter (table.finds condition)) := by
  refine (Plan.visit_perm table _ _).trans (List.Perm.of_eq ?_)
  rw [List.filter_filter]
  apply List.filter_congr
  intro row _
  exact Bool.and_comm _ _

theorem mem_matching (condition : Option (Condition Value)) (row : Row) :
    row ∈ table.matching condition ↔ row ∈ table.rows ∧ table.finds condition row = true := by
  rw [(table.matching_perm condition).mem_iff, List.mem_filter]

theorem others_eq_filter (condition : Option (Condition Value)) :
    table.others condition = table.rows.filter fun row => !table.finds condition row :=
  rfl

end Table

/-! ## Looking for an id -/

/-- The condition that a row has an id. -/
def Sql.Condition.ofId (id : Int64) : Condition Value :=
  .compare Field.rowIdName .equal (.integer id)

theorem Comparison.outcome_equal_integer (left right : Int64) :
    (Comparison.equal.outcome (.integer left) (.integer right) == Truth.holds) =
      (left == right) := by
  have scaled :
      left.toInt * Double.unitsPerOne = right.toInt * Double.unitsPerOne ↔ left = right := by
    have nonzero : (Double.unitsPerOne : Int) ≠ 0 :=
      Int.natCast_ne_zero.mpr (Nat.ne_of_gt Double.unitsPerOne_pos)
    rw [Int.mul_eq_mul_right_iff nonzero, Int64.toInt_inj]
  have decided :
      (Ord.compare (left.toInt * Double.unitsPerOne) (right.toInt * Double.unitsPerOne) == .eq) =
        (left == right) := by
    rw [Bool.eq_iff_iff, beq_iff_eq, beq_iff_eq, Std.LawfulEqCmp.compare_eq_iff_eq, scaled]
  simp only [outcome, Cell.compare?, Cell.key?, Cell.Key.compare, admits, decided]
  cases left == right <;> rfl

namespace Table

/-- Where the name of the row id stands for nothing else, an id finds its row. -/
theorem finds_identity
    {table : Table}
    (named : table.source? Field.rowIdName = some .identity)
    (id : Int64)
    (row : Row) :
    table.finds (some (Condition.ofId id)) row = (row.id == id) := by
  have selected :
      table.selects (some (Condition.ofId id)) row = (row.id == id) := by
    rw [selects, Condition.ofId, Condition.eval]
    simp only [interpretation, named]
    exact Comparison.outcome_equal_integer row.id id
  have planned :
      Plan.ofCondition table (some (Condition.ofId id)) = .lookup [.integer id] := by
    simp [Plan.ofCondition, Condition.ofId, Condition.conjuncts, Plan.ofTerms, Offer.ofTerm, named,
       Offer.ofComparison, Plan.firstEqual?]
  have addressed : Plan.addresses row (.integer id) = (row.id == id) := by
    rw [Plan.addresses]
    show (some id == some row.id) = (row.id == id)
    rw [Bool.eq_iff_iff, beq_iff_eq, beq_iff_eq, Option.some.injEq]
    exact eq_comm
  simp [finds, selected, planned, Plan.finds, addressed]

end Table

end RecordStore
