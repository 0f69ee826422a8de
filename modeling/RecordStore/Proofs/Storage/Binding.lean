import RecordStore.Proofs.Criteria.Mention
import RecordStore.Proofs.Database.Cell
import RecordStore.Proofs.Storage.Created

/-!
# Operands that are bound as null

Criteria that a caller can have apply no operator to null, so that the only
parameter that a database takes for null is one that is not a number.  Where a
row has a value, a test is unknown because of such an operand and for no other
reason; without one, criteria hold or fail in every row that has the values
which they ask about.

Main statement: `Criteria.unknown_only_for_nan`.
-/

namespace RecordStore

open Sql (Interpretation Truth)

/-! ## Tests that are unknown -/

theorem Junction.unknown_mem_of_combine
    {junction : Junction}
    {outcomes : List Truth}
    (isUnknown : junction.combine outcomes = .unknown) :
    Truth.unknown ∈ outcomes := by
  cases junction with
  | and => exact Truth.unknown_mem_of_all isUnknown
  | or => exact Truth.unknown_mem_of_any isUnknown

namespace Criteria

variable {interpretation : Interpretation Value}

/-- Criteria are unknown because of a member that is. -/
theorem exists_unknown_member
    {criteria : List Criterion}
    (isUnknown : eval interpretation criteria = .unknown) :
    ∃ member ∈ criteria, evalCriterion interpretation member = .unknown := by
  rw [eval_eq_all] at isUnknown
  exact List.mem_map.mp (Truth.unknown_mem_of_all isUnknown)

/-- A criterion is unknown because of a test that is, at whatever depth. -/
theorem exists_unknown_criterionTest
    {criterion : Criterion}
    (isUnknown : evalCriterion interpretation criterion = .unknown) :
    ∃ test ∈ criterionTests criterion,
      test.2.eval interpretation test.1.sqlName = .unknown := by
  induction criterion using Criterion.branchInduction with
  | condition field operator => exact ⟨(field, operator), List.mem_singleton_self _, isUnknown⟩
  | group junction branches induction =>
      rw [evalCriterion, evalBranches_eq_map] at isUnknown
      rcases List.mem_map.mp (Junction.unknown_mem_of_combine isUnknown) with
        ⟨branch, isBranch, branchUnknown⟩
      rcases exists_unknown_member branchUnknown with ⟨member, isMember, memberUnknown⟩
      rcases induction branch isBranch member isMember memberUnknown with
        ⟨test, isTest, testUnknown⟩
      have inGroup :=
        (mem_criterionTests_group_iff junction branches test).mpr
          ⟨branch, isBranch, member, isMember, isTest⟩
      exact ⟨test, inGroup, testUnknown⟩

/-- Criteria are unknown because of a test that is. -/
theorem exists_unknown_test
    {criteria : List Criterion}
    (isUnknown : eval interpretation criteria = .unknown) :
    ∃ test ∈ tests criteria, test.2.eval interpretation test.1.sqlName = .unknown := by
  rcases exists_unknown_member isUnknown with ⟨member, isMember, memberUnknown⟩
  rcases exists_unknown_criterionTest memberUnknown with ⟨test, isTest, testUnknown⟩
  exact ⟨test, (mem_tests_iff criteria test).mpr ⟨member, isMember, isTest⟩, testUnknown⟩

/-! ## Tests of well-formed criteria -/

theorem wellFormed_of_mem_criterionTests
    {criterion : Criterion}
    (wellFormed : WellFormedCriterion criterion)
    {test : Field × Operator}
    (isTest : test ∈ criterionTests criterion) :
    test.2.WellFormed := by
  induction criterion using Criterion.branchInduction with
  | condition field operator =>
      cases List.mem_singleton.mp isTest
      exact wellFormed.2
  | group junction branches induction =>
      rcases (mem_criterionTests_group_iff junction branches test).mp isTest with
        ⟨branch, isBranch, member, isMember, inMember⟩
      have branchWellFormed := ((wellFormedBranches_iff branches).mp wellFormed.2 branch isBranch).2
      exact induction branch isBranch member isMember
        ((wellFormed_iff branch).mp branchWellFormed member isMember) inMember

theorem wellFormed_of_mem_tests
    {criteria : List Criterion}
    (wellFormed : WellFormed criteria)
    {test : Field × Operator}
    (isTest : test ∈ tests criteria) :
    test.2.WellFormed := by
  rcases (mem_tests_iff criteria test).mp isTest with ⟨member, isMember, inMember⟩
  exact
    wellFormed_of_mem_criterionTests ((wellFormed_iff criteria).mp wellFormed member isMember)
      inMember

end Criteria

theorem Operator.WellFormed.isNull_operand
    {operator : Operator}
    (wellFormed : operator.WellFormed)
    {operand : Value}
    (isOperand : operand ∈ operator.operands) :
    operand.isNull = false := by
  rw [Bool.eq_false_iff, Ne, Value.isNull_eq_true_iff]
  cases operator with
  | compare comparison only =>
      cases List.mem_singleton.mp isOperand
      exact wellFormed
  | member negated members => exact wellFormed.2 operand isOperand
  | isNull flag => contradiction

/-! ## Rows that have a value -/

namespace Table

/-- A row has a value where a field stands. -/
def Fills (table : Table) (row : Row) (field : Field) : Prop :=
  ∃ source, table.source? field.sqlName = some source ∧ (row.read source).isNull = false

variable {table : Table} {row : Row} {field : Field}

/-- Comparing a value is unknown only with what is null or not a number. -/
theorem Fills.compare_eq_unknown_iff
    (fills : table.Fills row field)
    (comparison : Comparison)
    (operand : Value) :
    (table.interpretation row).compare field.sqlName comparison operand = .unknown ↔
      operand.isNull = true ∨ operand.isNaN = true := by
  rcases fills with ⟨source, isSource, filled⟩
  rw [Table.compare_eq_unknown_iff isSource, filled]
  simp

/-- A test of a value is unknown for what is not a number, unless another operand equals it. -/
theorem Fills.eval_eq_unknown_iff
    (fills : table.Fills row field)
    {operator : Operator}
    (wellFormed : operator.WellFormed) :
    operator.eval (table.interpretation row) field.sqlName = .unknown ↔
      (∃ operand ∈ operator.operands, operand.isNaN = true) ∧
        ∀ operand ∈ operator.operands,
          (table.interpretation row).compare field.sqlName .equal operand ≠ .holds := by
  have areFilled (operand : Value) (isOperand : operand ∈ operator.operands) :
      (table.interpretation row).compare field.sqlName .equal operand = .unknown ↔
        operand.isNaN = true := by
    rw [fills.compare_eq_unknown_iff, wellFormed.isNull_operand isOperand]
    simp
  cases operator with
  | compare comparison only =>
      have isOperand : only ∈ (Operator.compare comparison only).operands :=
        List.mem_singleton_self only
      rw [Operator.eval, fills.compare_eq_unknown_iff, wellFormed.isNull_operand isOperand]
      simp only [Bool.false_eq_true, false_or]
      constructor
      · intro isNaN
        refine ⟨⟨only, isOperand, isNaN⟩, ?_⟩
        intro operand isOnly
        cases List.mem_singleton.mp isOnly
        rw [(areFilled only isOperand).mpr isNaN]
        decide
      · rintro ⟨⟨operand, isOnly, isNaN⟩, -⟩
        cases List.mem_singleton.mp isOnly
        exact isNaN
  | member negated members =>
      rw [Operator.eval, Truth.negateIf_eq_unknown_iff, Truth.any_eq_unknown_iff, List.mem_map,
        List.forall_mem_map]
      refine and_congr_left fun _ => exists_congr fun operand => and_congr_right fun isOperand => ?_
      exact areFilled operand isOperand
  | isNull flag =>
      rw [Operator.eval, Truth.negateIf_eq_unknown_iff]
      refine iff_of_false (Truth.ofBool_ne_unknown _) ?_
      rintro ⟨⟨operand, isOperand, _⟩, _⟩
      contradiction

end Table

namespace Criteria

/--
Only what is not a number is bound as null, and makes the test of a value
unknown.

The parameters of criteria that a caller can have are the operands of their
tests.  Where a row has a value, a test is unknown exactly if one of its
operands is not a number and none equals the value; and without any such
parameter, criteria are never unknown in a row that has the values they ask
about.
-/
theorem unknown_only_for_nan
    {criteria : Criteria}
    (built : Built criteria) :
    ∃ restriction, criteria.restriction = .ok restriction ∧
      restriction.parameters = (tests criteria).flatMap (fun test => test.2.operands) ∧
        (∀ parameter ∈ restriction.parameters,
          Cell.ofValue parameter = .null ↔ parameter.isNaN = true) ∧
          ∀ (table : Table) (row : Row),
            (∀ test ∈ tests criteria, table.Fills row test.1 →
              (test.2.eval (table.interpretation row) test.1.sqlName = .unknown ↔
                (∃ operand ∈ test.2.operands, operand.isNaN = true) ∧
                  ∀ operand ∈ test.2.operands,
                    (table.interpretation row).compare test.1.sqlName .equal operand ≠
                      .holds)) ∧
              ((∀ parameter ∈ restriction.parameters, parameter.isNaN = false) →
                (∀ test ∈ tests criteria, table.Fills row test.1) →
                  eval (table.interpretation row) criteria ≠ .unknown) := by
  rcases exists_restriction built.wellFormed with ⟨restriction, restricts, _⟩
  have parameters := parameters_eq_flatMap restricts
  have wellFormed (test : Field × Operator) (isTest : test ∈ tests criteria) :
      test.2.WellFormed :=
    wellFormed_of_mem_tests built.wellFormed isTest
  refine ⟨restriction, restricts, parameters, ?_, fun table row => ⟨?_, ?_⟩⟩
  · intro parameter isParameter
    rw [parameters] at isParameter
    rcases List.mem_flatMap.mp isParameter with ⟨test, isTest, isOperand⟩
    rw [← Cell.isNull_eq_true_iff, Cell.isNull_ofValue,
      (wellFormed test isTest).isNull_operand isOperand, Bool.false_or]
  · intro test isTest fills
    exact fills.eval_eq_unknown_iff (wellFormed test isTest)
  · intro areNumbers fills isUnknown
    rcases exists_unknown_test isUnknown with ⟨test, isTest, testUnknown⟩
    have found := ((fills test isTest).eval_eq_unknown_iff (wellFormed test isTest)).mp testUnknown
    rcases found.1 with ⟨operand, isOperand, isNaN⟩
    have isParameter : operand ∈ restriction.parameters := by
      rw [parameters]
      exact List.mem_flatMap.mpr ⟨test, isTest, isOperand⟩
    rw [areNumbers operand isParameter] at isNaN
    contradiction

/-- A condition on one column can be had, once its operator is normalized. -/
theorem Built.single
    {name : String}
    (isIdentifier : Identifier.check name = .ok ())
    {operator normalized : Operator}
    (normalizes : operator.normalize = .ok normalized) :
    Built [.condition (.column name) normalized] := by
  have accepted :
      Criteria.ofList [.condition (.column name) operator] =
        .ok [.condition (.column name) normalized] := by
    simp only [Criteria.ofList, List.mapM_cons, List.mapM_nil, Criterion.validate, Field.validate,
      isIdentifier, normalizes]
    rfl
  refine .ofList ?_ accepted
  simp [Criterion.branches]

theorem score_isIdentifier : Identifier.check "score" = .ok () := by
  decide +kernel

/-- No score is 7 or what is not a number. -/
def otherScores : Criteria :=
  [.condition (.column "score") (.member true [.integer 7, .real ⟨0x7FF8000000000000⟩])]

theorem otherScores_built : Built otherScores := by
  have normalizes :
      Operator.normalize (.member true [.integer 7, .real ⟨0x7FF8000000000000⟩]) =
        .ok (.member true [.integer 7, .real ⟨0x7FF8000000000000⟩]) := rfl
  exact .single score_isIdentifier normalizes

/-- Of 7 and what is not a number the latter is null, and whether 8 is among them is unknown. -/
theorem score_may_be_among_nan :
    let table : Table := ⟨"t", ["score"], [], none, [], none, []⟩
    ∃ restriction, otherScores.restriction = .ok restriction ∧
      restriction.parameters = [.integer 7, .real ⟨0x7FF8000000000000⟩] ∧
        Cell.ofValue (.integer 7) ≠ .null ∧
          Cell.ofValue (.real ⟨0x7FF8000000000000⟩) = .null ∧
            eval (table.interpretation ⟨1, [.integer 7]⟩) otherScores = .fails ∧
              eval (table.interpretation ⟨1, [.integer 8]⟩) otherScores = .unknown := by
  intro table
  rcases unknown_only_for_nan otherScores_built with
    ⟨restriction, restricts, parameters, isNull_iff, outcomes⟩
  have listed : restriction.parameters = [.integer 7, .real ⟨0x7FF8000000000000⟩] := parameters
  rw [listed] at isNull_iff
  have isNaN : (Value.real ⟨0x7FF8000000000000⟩).isNaN = true := by decide
  have fills : table.Fills ⟨1, [.integer 8]⟩ (.column "score") := ⟨.column 0, by decide, rfl⟩
  have unknown_iff := (outcomes table ⟨1, [.integer 8]⟩).1 _ (List.mem_singleton_self _) fills
  refine ⟨restriction, restricts, listed, ?_, ?_, ?_, ?_⟩
  · rw [Ne, isNull_iff _ List.mem_cons_self]
    decide
  · exact (isNull_iff _ (List.mem_cons_of_mem _ List.mem_cons_self)).mpr isNaN
  · decide +kernel
  · rw [otherScores, eval, eval, Truth.and_holds]
    refine unknown_iff.mpr ⟨⟨_, List.mem_cons_of_mem _ List.mem_cons_self, isNaN⟩, ?_⟩
    decide +kernel

end Criteria

/-! ## Criteria that match nothing -/

namespace Session

/-- A score that is stored neither equals what is not a number nor differs from it. -/
theorem nan_matches_nothing :
    let nan : Value := .real ⟨0x7FF8000000000000⟩
    let differs : Criteria := [.condition (.column "score") (.compare .notEqual nan)]
    let equals : Criteria := [.condition (.column "score") (.compare .equal nan)]
    let record : Record := ⟨none, .ofList [("score", .integer 7)]⟩
    let session := ((inMemory scores .everyPut).perform (.put record)).2
    Criteria.Built differs ∧
      (∃ restriction, Criteria.restriction differs = .ok restriction ∧
        nan ∈ restriction.parameters ∧ Cell.ofValue nan = .null) ∧
        session.row? 1 = some [("name", .null), ("score", .integer 7)] ∧
          (session.perform (.select differs)).1 = .ok (.records []) ∧
            (session.perform (.select equals)).1 = .ok (.records []) := by
  intro nan differs equals record session
  have normalizes :
      Operator.normalize (.compare .notEqual nan) = .ok (.compare .notEqual nan) := rfl
  have built : Criteria.Built differs := .single Criteria.score_isIdentifier normalizes
  have outcomes :
      session.row? 1 = some [("name", .null), ("score", .integer 7)] ∧
        (session.perform (.select differs)).1.toOption = some (.records []) ∧
          (session.perform (.select equals)).1.toOption = some (.records []) := by
    decide +kernel
  exact
    ⟨built, ⟨_, rfl, List.mem_singleton_self nan, rfl⟩, outcomes.1,
      Outcome.eq_ok_of_toOption outcomes.2.1, Outcome.eq_ok_of_toOption outcomes.2.2⟩

end Session

end RecordStore
