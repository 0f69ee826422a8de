import RecordStore.Criteria.Grammar
import RecordStore.Criteria.Writer

/-!
# Named tests

A named test applies an operator to the field with a name.  A list of tests
can be written as a filter, added to a builder step by step, or, where every
name is that of a field, given as a list of criterions.  What a test becomes
and why it is refused depends on the name and the operator alone.
-/

namespace RecordStore

/-- The operator has no meaning in SQL, and this is why. -/
inductive Operator.IsRefused : Operator → OperatorFault → Prop where
  | orderingOfNull
      {comparison : Comparison}
      (isOrdering : comparison ≠ .equal ∧ comparison ≠ .notEqual) :
      IsRefused (.compare comparison .null) (.orderingOfNull comparison)
  | emptySet (negated : Bool) : IsRefused (.member negated []) (.emptySet negated)
  | nullMember
      (negated : Bool)
      {members : List Value}
      (hasNull : .null ∈ members) :
      IsRefused (.member negated members) (.nullMember negated)

/-- An operator that is to be applied to the field with a name. -/
structure NamedTest where
  name : String
  operator : Operator
  deriving DecidableEq, Repr

namespace NamedTest

/-- The criterion applies the operator of the test to the field with its name. -/
def IsSpelledBy (test : NamedTest) (criterion : Criterion) : Prop :=
  ∃ field, Field.read test.name = .ok field ∧ criterion = .condition field test.operator

/-- The criterion applies the normalized operator of the test to the field with its name. -/
def Becomes (test : NamedTest) (criterion : Criterion) : Prop :=
  ∃ field operator, Field.read test.name = .ok field ∧
    test.operator.normalize = .ok operator ∧
    criterion = .condition field operator

/-- The test is refused: for its name, or else for its operator. -/
inductive HasFault (test : NamedTest) : CriteriaFault → Prop where
  | name
      {fault : IdentifierFault}
      (notIdentity : test.name ≠ Field.identityName)
      (refused : Identifier.check test.name = .error fault) :
      HasFault test (.identifier fault)
  | operator
      {fault : OperatorFault}
      (isFieldKey : Filter.IsFieldKey test.name)
      (refused : test.operator.IsRefused fault) :
      HasFault test (.operator fault)

/-- The entry of a filter that spells the test. -/
def entry (test : NamedTest) : String × Json :=
  (test.name, .object [(test.operator.key, test.operator.operandJson)])

/-- The step of a builder that adds the test. -/
def step (test : NamedTest) : CriteriaBuilder.Step :=
  .condition test.name test.operator

end NamedTest

/-- The filter with an entry for each test. -/
def Filter.ofTests (tests : List NamedTest) : Filter :=
  .object (Json.setMembers (tests.map NamedTest.entry))

/-- The builder to which the tests were added in turn. -/
def CriteriaBuilder.ofTests (tests : List NamedTest) : CriteriaBuilder :=
  ofSteps (tests.map NamedTest.step)

end RecordStore
