import Mathlib.Logic.Relation
import RecordStore.Criteria.Grammar

/-!
# The spelling of filters

Every operator has a long and a short name, and equality with a scalar may be
written as the scalar alone.  Filters that differ in nothing else are spelt
alike.  A respelt object keeps its entries in their places and as many as they
were: an entry gets another name or another value, and never joins a second
one.
-/

namespace RecordStore

/-- The long name of every operator, each with the short one. -/
def Operator.names : List (String × String) :=
  Comparison.all.map (fun comparison => (comparison.key, comparison.shortKey)) ++
    [(memberKey false, shortMemberKey false), (memberKey true, shortMemberKey true),
      (nullKey, shortNullKey)]

namespace Filter

/-- One place in the entries of an object is spelt in the other way. -/
inductive Respells : List (String × Json) → List (String × Json) → Prop where
  | name
      (before after : List (String × Json))
      (field : String)
      (earlier later : List (String × Json))
      {long short : String}
      (areNames : (long, short) ∈ Operator.names)
      (operand : Json) :
      Respells
        (before ++ (field, .object (earlier ++ (long, operand) :: later)) :: after)
        (before ++ (field, .object (earlier ++ (short, operand) :: later)) :: after)
  | scalar
      (before after : List (String × Json))
      (field : String)
      {scalar : Json}
      (isScalar : scalar.IsScalar) :
      Respells
        (before ++ (field, scalar) :: after)
        (before ++ (field, .object [(Comparison.equal.key, scalar)]) :: after)
  | branch
      (before after : List (String × Json))
      (junction : Junction)
      (earlier later : List Json)
      {members others : List (String × Json)}
      (inner : Respells members others) :
      Respells
        (before ++ (junction.key, .array (earlier ++ .object members :: later)) :: after)
        (before ++ (junction.key, .array (earlier ++ .object others :: later)) :: after)

/-- The filters differ in their spelling alone, in any number of places. -/
inductive SpeltAlike : Filter → Filter → Prop where
  | same (filter : Filter) : SpeltAlike filter filter
  | object
      {members others : List (String × Json)}
      (respelt : Relation.EqvGen Respells members others) :
      SpeltAlike (.object members) (.object others)

end Filter

end RecordStore
