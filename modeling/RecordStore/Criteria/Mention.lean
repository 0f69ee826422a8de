import RecordStore.Criteria.Filter

/-!
# Fields that filters mention

The keys in a filter are the names of fields, except those of groups, whose
branches have keys of their own.  Criteria have the fields that the names
stand for, and apply an operator to each of them.
-/

namespace RecordStore

namespace Filter

mutual

/-- The names of fields in the entries of an object. -/
def membersNames : List (String × Json) → List String
  | [] => []
  | (key, value) :: rest => entryNames key value ++ membersNames rest

/-- The names of fields in an entry. -/
def entryNames (key : String) : Json → List String
  | .array items => if (Junction.ofKey? key).isSome then branchesNames items else [key]
  | _ => [key]

/-- The names of fields in the branches of a group. -/
def branchesNames : List Json → List String
  | [] => []
  | .object members :: rest => membersNames members ++ branchesNames rest
  | _ :: rest => branchesNames rest

end

/-- The names of the fields that a filter mentions, from left to right. -/
def names : Filter → List String
  | all => []
  | object members => membersNames members
  | identity _ => [Field.identityName]

end Filter

namespace Criteria

mutual

/-- The fields that a criterion tests. -/
def criterionFields : Criterion → List Field
  | .condition field _ => [field]
  | .group _ branches => branchesFields branches

/-- The fields that criteria test, from left to right. -/
def fields : List Criterion → List Field
  | [] => []
  | criterion :: rest => criterionFields criterion ++ fields rest

/-- The fields that branches test. -/
def branchesFields : List (List Criterion) → List Field
  | [] => []
  | branch :: rest => fields branch ++ branchesFields rest

end

mutual

/-- The fields that a criterion tests, each with the operator that is applied to it. -/
def criterionTests : Criterion → List (Field × Operator)
  | .condition field operator => [(field, operator)]
  | .group _ branches => branchesTests branches

/-- The fields that criteria test, with the operators, from left to right. -/
def tests : List Criterion → List (Field × Operator)
  | [] => []
  | criterion :: rest => criterionTests criterion ++ tests rest

/-- The fields that branches test, with the operators. -/
def branchesTests : List (List Criterion) → List (Field × Operator)
  | [] => []
  | branch :: rest => tests branch ++ branchesTests rest

end

end Criteria

end RecordStore
