import RecordStore.Criteria.Filter

/-!
# The language of filters

Which JSON values are filters, said without reading them.  A filter is null
or an object.  An entry of the object tests a field, by a scalar or by a
descriptor with one operator, or is a group of branches, each of them an
object with at least one entry.
-/

namespace RecordStore

/-- A JSON value that is no array and no object. -/
def Json.IsScalar : Json → Prop
  | .array _ => False
  | .object _ => False
  | _ => True

namespace Filter

/-- The keys of a test, in their long and their short form. -/
def keys (long short : String) : List String :=
  [long, short]

/-- A key that names a field. -/
def IsFieldKey (key : String) : Prop :=
  key = Field.identityName ∨ Identifier.check key = .ok ()

/-- An operand fits an operator's key. -/
inductive Fits : String → Json → Prop where
  | equality
      {comparison : Comparison}
      {key : String}
      {operand : Json}
      (isEquality : comparison = .equal ∨ comparison = .notEqual)
      (isKey : key ∈ keys comparison.key comparison.shortKey)
      (isScalar : operand.IsScalar) :
      Fits key operand
  | ordering
      {comparison : Comparison}
      {key : String}
      {operand : Json}
      (isOrdering : comparison ≠ .equal ∧ comparison ≠ .notEqual)
      (isKey : key ∈ keys comparison.key comparison.shortKey)
      (isScalar : operand.IsScalar)
      (notNull : operand ≠ .null) :
      Fits key operand
  | membership
      {negated : Bool}
      {key : String}
      {members : List Json}
      (isKey : key ∈ keys (Operator.memberKey negated) (Operator.shortMemberKey negated))
      (hasMember : members ≠ [])
      (areScalars : ∀ member ∈ members, member.IsScalar ∧ member ≠ .null) :
      Fits key (.array members)
  | nullity
      {key : String}
      (isKey : key ∈ keys Operator.nullKey Operator.shortNullKey)
      (flag : Bool) :
      Fits key (.boolean flag)

/-- An entry of a filter. -/
inductive IsEntry : String → Json → Prop where
  | scalar
      {key : String}
      {value : Json}
      (isField : IsFieldKey key)
      (isScalar : value.IsScalar) :
      IsEntry key value
  | descriptor
      {key operator : String}
      {operand : Json}
      (isField : IsFieldKey key)
      (fits : Fits operator operand) :
      IsEntry key (.object [(operator, operand)])
  | group
      (junction : Junction)
      {branches : List (List (String × Json))}
      (hasBranch : branches ≠ [])
      (hasEntry : ∀ branch ∈ branches, branch ≠ [])
      (areEntries : ∀ branch ∈ branches, ∀ entry ∈ branch, IsEntry entry.1 entry.2) :
      IsEntry junction.key (.array (branches.map .object))

/-- A JSON value is a filter. -/
inductive IsFilter : Json → Prop where
  | null : IsFilter .null
  | object
      {members : List (String × Json)}
      (areEntries : ∀ entry ∈ members, IsEntry entry.1 entry.2) :
      IsFilter (.object members)

end Filter

end RecordStore
