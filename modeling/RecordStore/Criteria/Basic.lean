import RecordStore.Field
import RecordStore.Junction
import RecordStore.Operator

/-!
# Criteria

Criteria are a conjunction of criterions.  A criterion is a condition on one
field, or a group of branches, each branch being criteria again.  Criteria
that were validated are well formed at every level: their columns are
identifiers, their operators are normalized, every group has a branch, and
no branch is empty.
-/

namespace RecordStore

/-- One member of a conjunction. -/
inductive Criterion where
  | condition (field : Field) (operator : Operator)
  | group (junction : Junction) (branches : List (List Criterion))
  deriving BEq, Repr

/-- A conjunction; without any member it restricts nothing. -/
abbrev Criteria := List Criterion

/-- Why criteria are refused. -/
inductive CriteriaFault where
  | identifier (fault : IdentifierFault)
  | operator (fault : OperatorFault)
  | notAFilter (json : Json)
  | arrayOperand (field : String)
  | emptyDescriptor (field : String)
  | crowdedDescriptor (field : String)
  | branchesExpected (junction : Junction) (json : Json)
  | objectBranchExpected (junction : Junction) (json : Json)
  | branchRequired (junction : Junction)
  | emptyBranchGiven (junction : Junction)
  | noBranch (junction : Junction)
  | emptyBranch (junction : Junction)
  | emptySetOn (negated : Bool) (column : String)
  | comparisonExpected (operator : Operator)
  | membershipExpected (operator : Operator)
  deriving BEq, Repr

namespace CriteriaFault

/-- On whose side a fault lies. -/
inductive Kind where
  | invalid
  | unsupported
  deriving DecidableEq, Repr

/-- How a message about a fault starts. -/
def Kind.title : Kind → String
  | invalid => "invalid criteria"
  | unsupported => "unsupported operator"

/-- The side on which the fault lies. -/
def kind : CriteriaFault → Kind
  | comparisonExpected _ => .unsupported
  | membershipExpected _ => .unsupported
  | _ => .invalid

/-- What the fault says to a reader. -/
def message : CriteriaFault → String
  | identifier fault => fault.message
  | operator fault => fault.message
  | notAFilter json => s!"filter must be an object or null, got {json.toText}"
  | arrayOperand field =>
      s!"field '{field}' cannot be compared to an array, use 'in-set'"
  | emptyDescriptor field => s!"field '{field}' has an empty operator descriptor"
  | crowdedDescriptor field =>
      s!"field '{field}' has more than one operator in its descriptor"
  | branchesExpected junction json =>
      s!"group '{junction.keyword}' expects an array of objects, got {json.toText}"
  | objectBranchExpected junction json =>
      s!"group '{junction.keyword}' expects object branches, got {json.toText}"
  | branchRequired junction =>
      s!"group '{junction.keyword}' requires at least one branch"
  | emptyBranchGiven junction =>
      s!"group '{junction.keyword}' contains an empty branch"
  | noBranch junction => s!"group '{junction.keyword}' has no branches"
  | emptyBranch junction => s!"group '{junction.keyword}' has an empty branch"
  | emptySetOn negated column =>
      s!"operator '{Operator.memberKey negated}' on '{column}' has an empty set"
  | comparisonExpected given => s!"'{given.key}' is not a scalar comparison"
  | membershipExpected given => s!"'{given.key}' is not a membership test"

end CriteriaFault

namespace Field

/-- The field that a caller's name stands for, its faults being faults of criteria. -/
def read (name : String) : Except CriteriaFault Field :=
  (parse name).mapError .identifier

/-- Accepts the identity, and a column whose name is an identifier. -/
def validate : Field → Except CriteriaFault Unit
  | identity => .ok ()
  | column name => (Identifier.check name).mapError .identifier

end Field

namespace Criterion

/-- Checks the outermost level of a criterion and normalizes its operator. -/
def validate : Criterion → Except CriteriaFault Criterion
  | condition field operator => do
      field.validate
      let normalized ← operator.normalize.mapError .operator
      .ok (condition field normalized)
  | group junction branches =>
      if branches.isEmpty then
        .error (.branchRequired junction)
      else if branches.any List.isEmpty then
        .error (.emptyBranchGiven junction)
      else
        .ok (group junction branches)

end Criterion

namespace Criteria

/-- Criteria of the given members, each of them validated in turn. -/
def ofList (members : List Criterion) : Except CriteriaFault Criteria :=
  members.mapM Criterion.validate

end Criteria

end RecordStore
