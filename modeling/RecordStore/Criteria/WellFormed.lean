import RecordStore.Criteria.Basic

/-!
# Well-formed criteria

The trees that can be written as a condition of SQL: every column is an
identifier, no operator is applied to null or to an empty set, every group
has a branch, and no branch is empty.
-/

namespace RecordStore

namespace Field

/-- The field is the identity, or a column whose name is an identifier. -/
def WellFormed : Field → Prop
  | identity => True
  | column name => Identifier.check name = .ok ()

end Field

namespace Operator

/-- The operator has operands, and none of them is null. -/
def WellFormed : Operator → Prop
  | compare _ operand => operand ≠ .null
  | member _ members => members ≠ [] ∧ ∀ value ∈ members, value ≠ .null
  | isNull _ => True

end Operator

namespace Criteria

mutual

/-- The criterion is well formed at every level. -/
def WellFormedCriterion : Criterion → Prop
  | .condition field operator => field.WellFormed ∧ operator.WellFormed
  | .group _ branches => branches ≠ [] ∧ WellFormedBranches branches

/-- Every member is well formed. -/
def WellFormed : List Criterion → Prop
  | [] => True
  | criterion :: rest => WellFormedCriterion criterion ∧ WellFormed rest

/-- Every branch has a member, and every member is well formed. -/
def WellFormedBranches : List (List Criterion) → Prop
  | [] => True
  | branch :: rest => (branch ≠ [] ∧ WellFormed branch) ∧ WellFormedBranches rest

end

end Criteria

end RecordStore
