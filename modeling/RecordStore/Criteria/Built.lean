import RecordStore.Criteria.Builder
import RecordStore.Criteria.Filter

/-!
# Criteria that callers can have

Callers get criteria from a filter, from a list of criterions, or step by
step from a builder.  The branches that they put into a group are criteria
that they got before, in any of these ways and to any depth.
-/

namespace RecordStore

/-- The branches of a group; a condition has none. -/
def Criterion.branches : Criterion → List Criteria
  | condition _ _ => []
  | group _ branches => branches

namespace CriteriaBuilder

/-- One step of building. -/
inductive Step where
  | condition (name : String) (operator : Operator)
  | group (junction : Junction) (branches : List Criteria)
  deriving BEq, Repr

/-- The branches that a step adds. -/
def Step.branches : Step → List Criteria
  | condition _ _ => []
  | group _ branches => branches

/-- The builder after one more step. -/
def take (builder : CriteriaBuilder) : Step → CriteriaBuilder
  | .condition name operator => builder.condition name operator
  | .group junction branches => builder.group junction branches

/-- The builder after a chain of steps. -/
def ofSteps (steps : List Step) : CriteriaBuilder :=
  steps.foldl take empty

end CriteriaBuilder

namespace Criteria

/-- A caller can have the criteria. -/
inductive Built : Criteria → Prop where
  | all : Built []
  | ofFilter
      {filter : Filter}
      {criteria : Criteria}
      (accepted : ofFilter filter = .ok criteria) :
      Built criteria
  | ofList
      {members : List Criterion}
      {criteria : Criteria}
      (branchesBuilt : ∀ member ∈ members, ∀ branch ∈ member.branches, Built branch)
      (accepted : ofList members = .ok criteria) :
      Built criteria
  | ofSteps
      {steps : List CriteriaBuilder.Step}
      {criteria : Criteria}
      (branchesBuilt : ∀ step ∈ steps, ∀ branch ∈ step.branches, Built branch)
      (accepted : (CriteriaBuilder.ofSteps steps).build = .ok criteria) :
      Built criteria

end Criteria

end RecordStore
