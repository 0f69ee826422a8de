import RecordStore.Criteria.Basic

/-!
# Filters

A filter is what a caller hands in: no restriction, a JSON object, or the
identity of a stored record.  An object maps the names of fields to scalars,
which stand for equality, or to descriptors with one operator each; the keys
`$and` and `$or` map to arrays of objects, the branches of a group.
`Criteria.ofFilter` reads a filter entry by entry and stops at the first
entry that is refused.
-/

namespace RecordStore

/-- What a caller asks for. -/
inductive Filter where
  | all
  | object (members : List (String × Json))
  | identity (id : Int64)
  deriving BEq, Repr

namespace Filter

/-- The filter that a JSON value stands for: null or an object. -/
def ofJson : Json → Except CriteriaFault Filter
  | .null => .ok all
  | .object members => .ok (object members)
  | other => .error (.notAFilter other)

end Filter

namespace Criteria

/-- The operator of a descriptor, which must be the only one in it. -/
def readDescriptor (field : String) :
    List (String × Json) → Except CriteriaFault Operator
  | [] => .error (.emptyDescriptor field)
  | [(key, operand)] => (Operator.ofDescriptor key operand).mapError .operator
  | _ :: _ :: _ => .error (.crowdedDescriptor field)

/-- The operator that the value of a field's entry stands for. -/
def readOperator (field : String) : Json → Except CriteriaFault Operator
  | .object descriptor => readDescriptor field descriptor
  | .array _ => .error (.arrayOperand field)
  | scalar =>
      (Operator.ofDescriptor Comparison.equal.key scalar).mapError .operator

/-- The condition that the entry of a field stands for. -/
def readCondition (key : String) (value : Json) : Except CriteriaFault Criterion := do
  let field ← Field.read key
  let operator ← readOperator key value
  .ok (.condition field operator)

mutual

/-- The criteria that the entries of an object stand for. -/
def ofMembers : List (String × Json) → Except CriteriaFault Criteria
  | [] => .ok []
  | (key, value) :: rest => do
      let criterion ← ofMember key value
      let others ← ofMembers rest
      .ok (criterion :: others)

/-- The criterion that one entry stands for. -/
def ofMember (key : String) : Json → Except CriteriaFault Criterion
  | .array items =>
      match Junction.ofKey? key with
      | some junction => do
          let branches ← ofBranches junction items
          (Criterion.group junction branches).validate
      | none => readCondition key (.array items)
  | value =>
      match Junction.ofKey? key with
      | some junction => .error (.branchesExpected junction value)
      | none => readCondition key value

/-- The branches that the elements of an array stand for. -/
def ofBranches (junction : Junction) :
    List Json → Except CriteriaFault (List Criteria)
  | [] => .ok []
  | .object members :: rest => do
      let branch ← ofMembers members
      let others ← ofBranches junction rest
      .ok (branch :: others)
  | other :: _ => .error (.objectBranchExpected junction other)

end

/-- The criteria that a filter stands for. -/
def ofFilter : Filter → Except CriteriaFault Criteria
  | .all => .ok []
  | .object members => ofMembers members
  | .identity id => .ok [.condition .identity (.compare .equal (.integer id))]

end Criteria

end RecordStore
