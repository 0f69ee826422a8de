import RecordStore.Criteria.Filter
import RecordStore.Sql.Condition

/-!
# Restrictions

A restriction is what criteria become in SQL: the condition of a statement.
Conditions on fields are joined by `AND`; a group stands in parentheses, with
its branches joined by its keyword, and a branch of several criterions in
parentheses of its own.  Criteria without members give no condition at all.

There is no SQL for trees that no caller can build: those with an empty set,
a group without branches or an empty branch.  The fault that would stand
leftmost in the text is the one reported.
-/

namespace RecordStore

open Sql (Condition)

namespace Operator

/-- The comparison that an operator makes. -/
def comparison : Operator → Except CriteriaFault Comparison
  | compare comparison _ => .ok comparison
  | other => .error (.comparisonExpected other)

/-- Whether the membership that an operator tests is negated. -/
def membership : Operator → Except CriteriaFault Bool
  | member negated _ => .ok negated
  | other => .error (.membershipExpected other)

/-- The condition that applies an operator to a column. -/
def toCondition (column : String) (operator : Operator) :
    Except CriteriaFault (Condition Value) :=
  match operator with
  | compare _ operand => do
      let comparison ← operator.comparison
      .ok (.compare column comparison operand)
  | member negated [] => .error (.emptySetOn negated column)
  | member _ (first :: rest) => do
      let negated ← operator.membership
      .ok (.member column negated (first :: rest))
  | isNull flag => .ok (.isNull column !flag)

end Operator

namespace Criteria

/-- One branch of a group: several conditions are joined and put in parentheses. -/
def joinBranch {α : Type} : List (Condition α) → Option (Condition α)
  | [] => none
  | [only] => some only
  | first :: second :: rest =>
      (Condition.joinAll? .and (first :: second :: rest)).map .paren

mutual

/-- The condition of one criterion. -/
def criterionCondition : Criterion → Except CriteriaFault (Condition Value)
  | .condition field operator => operator.toCondition field.sqlName
  | .group junction branches => do
      let parts ← branchConditions junction branches
      match Condition.joinAll? junction parts with
      | some joined => .ok (.paren joined)
      | none => .error (.noBranch junction)

/-- The conditions of the members of a conjunction. -/
def conditions : List Criterion → Except CriteriaFault (List (Condition Value))
  | [] => .ok []
  | criterion :: rest => do
      let first ← criterionCondition criterion
      let others ← conditions rest
      .ok (first :: others)

/-- The conditions of the branches of a group. -/
def branchConditions (junction : Junction) :
    List (List Criterion) → Except CriteriaFault (List (Condition Value))
  | [] => .ok []
  | branch :: rest => do
      let parts ← conditions branch
      match joinBranch parts with
      | none => .error (.emptyBranch junction)
      | some first => do
          let others ← branchConditions junction rest
          .ok (first :: others)

end

end Criteria

/-- The SQL of criteria. -/
structure Restriction where
  condition : Option (Condition Value)
  deriving DecidableEq, Repr

namespace Restriction

/-- The restriction without a condition. -/
def unrestricted : Restriction :=
  ⟨none⟩

/-- The text of the condition, empty when there is none. -/
def fragment (restriction : Restriction) : String :=
  match restriction.condition with
  | none => ""
  | some condition => condition.text

/-- The values bound to the placeholders, from left to right. -/
def parameters (restriction : Restriction) : List Value :=
  match restriction.condition with
  | none => []
  | some condition => condition.operands

/-- The restriction has no condition. -/
def isEmpty (restriction : Restriction) : Bool :=
  restriction.fragment.isEmpty

/-- How many placeholders the text has. -/
def placeholderCount (restriction : Restriction) : Nat :=
  restriction.fragment.toList.count '?'

end Restriction

namespace Criteria

/-- The restriction that criteria stand for. -/
def restriction (criteria : Criteria) : Except CriteriaFault Restriction := do
  let parts ← conditions criteria
  .ok ⟨Condition.joinAll? .and parts⟩

end Criteria

namespace Filter

/-- The restriction that a filter stands for. -/
def restriction (filter : Filter) : Except CriteriaFault Restriction := do
  let criteria ← Criteria.ofFilter filter
  criteria.restriction

end Filter

end RecordStore
