import RecordStore.Criteria.NamedTest
import RecordStore.Proofs.Criteria.Writer

/-!
# A filter, a builder and a list agree

A filter, a builder and a list of criterions are validated by code of their
own.  All three read a list of tests one by one, in its order and each test
by itself, so that they become the same criteria, and are refused with the
same fault, that of the first test that is refused.

Main statement: `Criteria.constructions_agree`.
-/

namespace RecordStore

namespace Operator

theorem normalize_eq_error_iff (operator : Operator) (fault : OperatorFault) :
    operator.normalize = .error fault ↔ operator.IsRefused fault := by
  constructor
  · intro refused
    unfold normalize at refused
    split at refused
    · contradiction
    · contradiction
    · next comparison notEqual notNotEqual =>
        cases refused
        refine .orderingOfNull ⟨?_, ?_⟩
        · rintro rfl
          exact notEqual rfl
        · rintro rfl
          exact notNotEqual rfl
    · contradiction
    · next negated members =>
        split_ifs at refused with isEmpty hasNull
        · cases refused
          rw [List.isEmpty_iff.mp isEmpty]
          exact .emptySet negated
        · cases refused
          apply IsRefused.nullMember
          simpa [Value.isNull_eq_true_iff] using hasNull
    · contradiction
  · intro isRefused
    cases isRefused with
    | @orderingOfNull comparison isOrdering => cases comparison <;> simp_all [normalize]
    | emptySet negated => rfl
    | @nullMember negated members hasNull =>
        have isNonempty : members ≠ [] := List.ne_nil_of_mem hasNull
        have anyNull : members.any Value.isNull = true :=
          List.any_eq_true.mpr ⟨.null, hasNull, rfl⟩
        rw [normalize, if_neg (by simpa using isNonempty), if_pos anyNull]

end Operator

namespace Field

theorem read_eq_error_iff (name : String) (fault : CriteriaFault) :
    read name = .error fault ↔
      ∃ origin, fault = .identifier origin ∧
        name ≠ identityName ∧ Identifier.check name = .error origin := by
  simp only [read, parse, Outcome.mapError_eq_error_iff]
  split_ifs with isIdentity
  · simp [isIdentity]
  · simp only [Outcome.bind_eq_error_iff, reduceCtorEq, and_false, exists_false, or_false]
    constructor
    · rintro ⟨origin, refused, rfl⟩
      exact ⟨origin, rfl, isIdentity, refused⟩
    · rintro ⟨origin, rfl, -, refused⟩
      exact ⟨origin, refused, rfl⟩

theorem validate_of_wellFormed
    {field : Field}
    (wellFormed : field.WellFormed) :
    field.validate = .ok () := by
  cases field with
  | identity => rfl
  | column name => exact Outcome.mapError_eq_ok_iff.mpr wellFormed

end Field

namespace NamedTest

/-! ## One test -/

/-- What the test is read as, whatever it is spelt in. -/
def read (test : NamedTest) : Except CriteriaFault Criterion := do
  let field ← Field.read test.name
  let operator ← test.operator.normalize.mapError .operator
  .ok (.condition field operator)

theorem read_eq_ok_iff (test : NamedTest) (criterion : Criterion) :
    test.read = .ok criterion ↔ test.Becomes criterion := by
  simp only [read, Outcome.bind_eq_ok_iff, Outcome.mapError_eq_ok_iff]
  constructor
  · rintro ⟨field, fieldRead, operator, normalized, same⟩
    exact ⟨field, operator, fieldRead, normalized, (Except.ok.inj same).symm⟩
  · rintro ⟨field, operator, fieldRead, normalized, rfl⟩
    exact ⟨field, fieldRead, operator, normalized, rfl⟩

theorem read_eq_error_iff (test : NamedTest) (fault : CriteriaFault) :
    test.read = .error fault ↔ test.HasFault fault := by
  rw [read, Outcome.bind_eq_error_iff]
  constructor
  · rintro (refused | ⟨field, fieldRead, refused⟩)
    · rcases (Field.read_eq_error_iff _ _).mp refused with ⟨origin, rfl, notIdentity, refused⟩
      exact .name notIdentity refused
    · rcases Outcome.bind_eq_error_iff.mp refused with refused | ⟨operator, -, done⟩
      · rcases Outcome.mapError_eq_error_iff.mp refused with ⟨origin, notNormalized, rfl⟩
        have isFieldKey := (Field.exists_read_iff test.name).mp ⟨field, fieldRead⟩
        exact .operator isFieldKey ((Operator.normalize_eq_error_iff _ _).mp notNormalized)
      · contradiction
  · intro hasFault
    cases hasFault with
    | name notIdentity refused =>
        exact .inl ((Field.read_eq_error_iff _ _).mpr ⟨_, rfl, notIdentity, refused⟩)
    | operator isFieldKey refused =>
        rcases (Field.exists_read_iff test.name).mpr isFieldKey with ⟨field, fieldRead⟩
        have normalized := (Operator.normalize_eq_error_iff _ _).mpr refused
        exact .inr ⟨field, fieldRead, by rw [normalized]; rfl⟩

/-- Validation finds no more fault with a field that was read from its name. -/
theorem validate_of_isSpelledBy
    {test : NamedTest}
    {criterion : Criterion}
    (spelled : test.IsSpelledBy criterion) :
    criterion.validate = test.read := by
  rcases spelled with ⟨field, fieldRead, rfl⟩
  have isValid := Field.validate_of_wellFormed (Field.wellFormed_of_read fieldRead)
  rw [Criterion.validate, isValid, read, fieldRead, Outcome.ok_bind, Outcome.ok_bind]

/-- A step adds what the test is read as. -/
theorem build_take_step (test : NamedTest) (builder : CriteriaBuilder) :
    (builder.take test.step).build =
      (do
        let criteria ← builder.build
        let criterion ← test.read
        .ok (criteria ++ [criterion])) := by
  have sameRead :
      (do
        let field ← Field.read test.name
        (Criterion.condition field test.operator).validate) =
          test.read := by
    cases fieldRead : Field.read test.name with
    | error fault => rw [read, fieldRead, Outcome.error_bind, Outcome.error_bind]
    | ok field =>
        rw [Outcome.ok_bind]
        exact validate_of_isSpelledBy ⟨field, fieldRead, rfl⟩
  rw [← sameRead]
  rfl

/-- An entry is what the test is read as, since its operand comes back from JSON. -/
theorem ofMember_entry
    {test : NamedTest}
    (noGroup : ∀ junction : Junction, test.name ≠ junction.key)
    (isFinite : test.operator.IsFinite) :
    Criteria.ofMember test.entry.1 test.entry.2 = test.read := by
  have notGroup : Junction.ofKey? test.name = none := by
    apply Option.eq_none_iff_forall_ne_some.mpr
    intro junction found
    exact noGroup junction ((Junction.ofKey?_eq_some_iff _ _).mp found)
  have sameOperator :
      Operator.ofDescriptor test.operator.key test.operator.operandJson =
        test.operator.normalize := by
    rw [Operator.ofDescriptor, Operator.readDescriptor_operandJson isFinite, Outcome.ok_bind]
  rw [entry, Criteria.ofMember_of_ofKey?_eq_none notGroup, Criteria.readCondition,
    Criteria.readOperator, Criteria.readDescriptor, sameOperator, read]

end NamedTest

/-! ## Lists of tests -/

namespace CriteriaBuilder

/-- The steps of tests add what the tests are read as, in their order, unless one is refused. -/
theorem build_foldl_take (tests : List NamedTest) (builder : CriteriaBuilder) :
    ((tests.map NamedTest.step).foldl take builder).build =
      (do
        let criteria ← builder.build
        let others ← tests.mapM NamedTest.read
        .ok (criteria ++ others)) := by
  induction tests generalizing builder with
  | nil => cases found : builder.build <;> simp [found, pure, Except.pure]
  | cons test rest induction =>
      rw [List.map_cons, List.foldl_cons, induction, NamedTest.build_take_step, List.mapM_cons]
      -- The first fault of the three parts decides; without one, the criterions are joined.
      cases builder.build with
      | error fault => rfl
      | ok criteria =>
          cases test.read with
          | error fault => rfl
          | ok criterion =>
              cases rest.mapM NamedTest.read with
              | error fault => rfl
              | ok others => simp [pure, Except.pure]

theorem build_ofTests (tests : List NamedTest) :
    (ofTests tests).build = tests.mapM NamedTest.read := by
  rw [ofTests, ofSteps, build_foldl_take]
  cases tests.mapM NamedTest.read <;> rfl

end CriteriaBuilder

namespace Criteria

theorem ofMembers_entries
    {tests : List NamedTest}
    (noGroup : ∀ test ∈ tests, ∀ junction : Junction, test.name ≠ junction.key)
    (areFinite : ∀ test ∈ tests, test.operator.IsFinite) :
    ofMembers (tests.map NamedTest.entry) = tests.mapM NamedTest.read := by
  induction tests with
  | nil => rfl
  | cons test rest induction =>
      rw [List.forall_mem_cons] at noGroup areFinite
      rw [List.map_cons, ofMembers, NamedTest.ofMember_entry noGroup.1 areFinite.1,
        induction noGroup.2 areFinite.2, List.mapM_cons]
      rfl

/-- Under distinct names, the object of a filter keeps the entries of all tests in their order. -/
theorem ofFilter_ofTests
    {tests : List NamedTest}
    (distinct : (tests.map NamedTest.name).Nodup)
    (noGroup : ∀ test ∈ tests, ∀ junction : Junction, test.name ≠ junction.key)
    (areFinite : ∀ test ∈ tests, test.operator.IsFinite) :
    ofFilter (.ofTests tests) = tests.mapM NamedTest.read := by
  have entriesDistinct : ((tests.map NamedTest.entry).map Prod.fst).Nodup := by
    rwa [List.map_map]
  rw [Filter.ofTests, ofFilter, Json.setMembers_of_nodup entriesDistinct,
    ofMembers_entries noGroup areFinite]

theorem ofList_of_isSpelledBy
    {tests : List NamedTest}
    {members : List Criterion}
    (spelled : List.Forall₂ NamedTest.IsSpelledBy tests members) :
    ofList members = tests.mapM NamedTest.read := by
  rw [ofList]
  induction spelled with
  | nil => rfl
  | cons firstSpelled following induction =>
      rw [List.mapM_cons, List.mapM_cons, NamedTest.validate_of_isSpelledBy firstSpelled, induction]

/--
Tests of distinct names have one result, in whatever form they are given.  It
is the criteria that the tests become, or the fault of the first test that is
refused, whatever follows it.
-/
theorem constructions_agree
    {tests : List NamedTest}
    (distinct : (tests.map NamedTest.name).Nodup)
    (noGroup : ∀ test ∈ tests, ∀ junction : Junction, test.name ≠ junction.key)
    (areFinite : ∀ test ∈ tests, test.operator.IsFinite) :
    ∃ result,
      ofFilter (.ofTests tests) = result ∧
        (CriteriaBuilder.ofTests tests).build = result ∧
        (∀ members, List.Forall₂ NamedTest.IsSpelledBy tests members → ofList members = result) ∧
        (∀ criteria, result = .ok criteria ↔ List.Forall₂ NamedTest.Becomes tests criteria) ∧
        ∀ fault, result = .error fault ↔
          ∃ before test after, tests = before ++ test :: after ∧
            (∀ earlier ∈ before, ∃ criterion, earlier.Becomes criterion) ∧
            test.HasFault fault := by
  refine
    ⟨tests.mapM NamedTest.read, ofFilter_ofTests distinct noGroup areFinite,
      CriteriaBuilder.build_ofTests tests, ?_, ?_, ?_⟩
  · intro members spelled
    exact ofList_of_isSpelledBy spelled
  · intro criteria
    simp only [Pointwise.mapM_eq_ok_iff, NamedTest.read_eq_ok_iff]
  · intro fault
    simp only [Outcome.mapM_eq_error_iff, NamedTest.read_eq_ok_iff, NamedTest.read_eq_error_iff]

/-- Three tests, of which the second and the third have no meaning in SQL. -/
def faultyTests : List NamedTest :=
  [⟨"age", .compare .greater (.integer 21)⟩,
    ⟨"score", .member false []⟩,
    ⟨"label", .compare .less .null⟩]

/-- In every form, the set without members is the fault that is found. -/
theorem faulty_tests_are_refused_alike :
    ofFilter (.ofTests faultyTests) = .error (.operator (.emptySet false)) ∧
      (CriteriaBuilder.ofTests faultyTests).build = .error (.operator (.emptySet false)) ∧
      ofList
          [.condition (.column "age") (.compare .greater (.integer 21)),
            .condition (.column "score") (.member false []),
            .condition (.column "label") (.compare .less .null)] =
        .error (.operator (.emptySet false)) := by
  have ageRead : Field.read "age" = .ok (.column "age") :=
    Outcome.mapError_eq_ok_iff.mpr (by decide +kernel)
  have scoreRead : Field.read "score" = .ok (.column "score") :=
    Outcome.mapError_eq_ok_iff.mpr (by decide +kernel)
  have labelRead : Field.read "label" = .ok (.column "label") :=
    Outcome.mapError_eq_ok_iff.mpr (by decide +kernel)
  have areFinite : ∀ test ∈ faultyTests, test.operator.IsFinite := by
    simp [faultyTests, Operator.IsFinite, Value.isFinite]
  have noGroup : ∀ test ∈ faultyTests, ∀ junction : Junction, test.name ≠ junction.key := by
    intro test member junction
    cases junction <;> revert test <;> decide
  rcases constructions_agree (by decide) noGroup areFinite with
    ⟨result, filterRead, builderRead, listRead, -, refused⟩
  have isRefused : result = .error (.operator (.emptySet false)) := by
    refine (refused _).mpr ⟨[_], _, [_], rfl, ?_, .operator (.inr ?_) (.emptySet false)⟩
    · intro test member
      rw [List.mem_singleton.mp member]
      exact ⟨_, .column "age", _, ageRead, rfl, rfl⟩
    · decide +kernel
  refine ⟨filterRead.trans isRefused, builderRead.trans isRefused, ?_⟩
  refine (listRead _ ?_).trans isRefused
  exact
    .cons ⟨_, ageRead, rfl⟩ <|
      .cons ⟨_, scoreRead, rfl⟩ <|
        .cons ⟨_, labelRead, rfl⟩ .nil

end Criteria

end RecordStore
