import RecordStore.Criteria.Basic

/-!
# Building criteria step by step

A builder collects criterions in order.  The first one that is refused is
remembered, and every later step leaves the builder as it is.
-/

namespace RecordStore

/-- Criteria under construction, or the fault of the first refused step. -/
structure CriteriaBuilder where
  result : Except CriteriaFault Criteria

namespace CriteriaBuilder

/-- A builder without any criterion. -/
def empty : CriteriaBuilder :=
  ⟨.ok []⟩

/-- Adds a criterion, unless a step was refused before. -/
def add (builder : CriteriaBuilder) (criterion : Except CriteriaFault Criterion) :
    CriteriaBuilder :=
  ⟨do
    let criteria ← builder.result
    let next ← criterion
    .ok (criteria ++ [next])⟩

/-- Adds a condition on the field with a name. -/
def condition
    (builder : CriteriaBuilder)
    (name : String)
    (operator : Operator) :
    CriteriaBuilder :=
  builder.add do
    let field ← Field.read name
    (Criterion.condition field operator).validate

/-- Adds a group. -/
def group
    (builder : CriteriaBuilder)
    (junction : Junction)
    (branches : List Criteria) :
    CriteriaBuilder :=
  builder.add (Criterion.group junction branches).validate

/-- The criteria, or the fault of the first refused step. -/
def build (builder : CriteriaBuilder) : Except CriteriaFault Criteria :=
  builder.result

end CriteriaBuilder

end RecordStore
