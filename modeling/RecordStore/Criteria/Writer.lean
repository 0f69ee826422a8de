import RecordStore.Criteria.Built

/-!
# Writing criteria as filters

Criteria can be written as the object of a filter: every condition as the
descriptor of its field, and every group under the key of its junction.  An
object keeps one entry for each key, so criteria come back from it only if
no conjunction has two conditions on a field or two groups of a junction.
-/

namespace RecordStore

/-- The operands of the operator can be spelt in JSON. -/
def Operator.IsFinite : Operator → Prop
  | compare _ operand => operand.isFinite = true
  | member _ members => ∀ value ∈ members, value.isFinite = true
  | isNull _ => True

/-- The criterions are two conditions on one field name, or two groups of one junction. -/
def Criterion.Repeats : Criterion → Criterion → Prop
  | condition first _, condition second _ => first.name = second.name
  | group first _, group second _ => first = second
  | _, _ => False

namespace Criteria

mutual

/-- The entry of one criterion. -/
def entry : Criterion → String × Json
  | .condition field operator =>
      (field.name, .object [(operator.key, operator.operandJson)])
  | .group junction branches => (junction.key, .array (branchObjects branches))

/-- The entries of criteria, in their order. -/
def entries : List Criterion → List (String × Json)
  | [] => []
  | criterion :: rest => entry criterion :: entries rest

/-- The objects of branches, in their order. -/
def branchObjects : List (List Criterion) → List Json
  | [] => []
  | branch :: rest => .object (Json.setMembers (entries branch)) :: branchObjects rest

end

/-- The filter that criteria are written as. -/
def toFilter (criteria : Criteria) : Filter :=
  .object (Json.setMembers (entries criteria))

/-- At every depth, a conjunction has a key of its own for each member, and JSON for each operand. -/
inductive IsWritable : Criteria → Prop where
  | intro
      {criteria : Criteria}
      (noRepeats : criteria.Pairwise fun first second => ¬ first.Repeats second)
      (noIdentityColumn :
        ∀ operator, .condition (.column Field.identityName) operator ∉ criteria)
      (areFinite :
        ∀ field operator, .condition field operator ∈ criteria → operator.IsFinite)
      (branchesWritable :
        ∀ member ∈ criteria, ∀ branch ∈ member.branches, IsWritable branch) :
      IsWritable criteria

end Criteria

end RecordStore
