import RecordStore.Criteria.Mention
import RecordStore.Proofs.Criteria.Template
import RecordStore.Proofs.Database.Statement

/-!
# Every field becomes a column

The fields that a filter mentions are those of its criteria, and these are the
columns of the condition that the criteria become: none is left out on the
way, at whatever depth it stands.

Main statement: `Filter.exists_column`.
-/

namespace RecordStore

open Sql (Condition)

namespace Field

theorem name_of_read
    {key : String}
    {field : Field}
    (fieldRead : read key = .ok field) :
    field.name = key := by
  rw [read, Outcome.mapError_eq_ok_iff, parse] at fieldRead
  split at fieldRead
  · next isIdentity =>
      cases fieldRead
      exact isIdentity.symm
  · rcases Outcome.bind_eq_ok_iff.mp fieldRead with ⟨_, _, isField⟩
    cases isField
    rfl

/-- A field that is not the identity is a column of its name. -/
theorem sqlName_eq_name
    {field : Field}
    (notIdentity : field.name ≠ identityName) :
    field.sqlName = field.name := by
  cases field with
  | identity => exact absurd rfl notIdentity
  | column name => rfl

end Field

/-! ## From filters to criteria -/

namespace Filter

theorem membersNames_eq_flatMap (members : List (String × Json)) :
    membersNames members = members.flatMap fun entry => entryNames entry.1 entry.2 := by
  induction members with
  | nil => rfl
  | cons entry rest induction => rw [membersNames, induction, List.flatMap_cons]

theorem branchesNames_eq_flatMap (objects : List (List (String × Json))) :
    branchesNames (objects.map .object) = objects.flatMap membersNames := by
  induction objects with
  | nil => rfl
  | cons object rest induction =>
      rw [List.map_cons, branchesNames, induction, List.flatMap_cons]

end Filter

namespace Criteria

theorem fields_eq_flatMap (criteria : List Criterion) :
    fields criteria = criteria.flatMap criterionFields := by
  induction criteria with
  | nil => rfl
  | cons criterion rest induction => rw [fields, induction, List.flatMap_cons]

theorem branchesFields_eq_flatMap (branches : List (List Criterion)) :
    branchesFields branches = branches.flatMap fields := by
  induction branches with
  | nil => rfl
  | cons branch rest induction => rw [branchesFields, induction, List.flatMap_cons]

/-- The entry of a field mentions it alone. -/
theorem names_of_readCondition
    {key : String}
    {value : Json}
    {criterion : Criterion}
    (accepted : readCondition key value = .ok criterion) :
    (criterionFields criterion).map Field.name = [key] := by
  rcases Outcome.bind_eq_ok_iff.mp accepted with ⟨field, fieldRead, accepted⟩
  rcases Outcome.bind_eq_ok_iff.mp accepted with ⟨operator, _, isCondition⟩
  cases isCondition
  exact congrArg (fun name => [name]) (Field.name_of_read fieldRead)

/-- The fields of the criteria of an object, if its entries mention what they are read as. -/
theorem names_of_ofMembers
    {members : List (String × Json)}
    (entries :
      ∀ entry ∈ members, ∀ criterion, ofMember entry.1 entry.2 = .ok criterion →
        Filter.entryNames entry.1 entry.2 = (criterionFields criterion).map Field.name)
    {criteria : Criteria}
    (read : ofMembers members = .ok criteria) :
    Filter.membersNames members = (fields criteria).map Field.name := by
  rw [Filter.membersNames_eq_flatMap, fields_eq_flatMap, List.map_flatMap]
  exact Pointwise.flatMap_eq ((ofMembers_eq_ok_iff members criteria).mp read) entries

/-- An entry mentions the fields of the criterion that it is read as. -/
theorem names_of_ofMember
    {key : String}
    {value : Json}
    (isEntry : Filter.IsEntry key value)
    {criterion : Criterion}
    (read : ofMember key value = .ok criterion) :
    Filter.entryNames key value = (criterionFields criterion).map Field.name := by
  induction isEntry generalizing criterion with
  | @scalar key value isField isScalar =>
      rw [ofMember_of_ofKey?_eq_none isField.ofKey?_eq_none] at read
      rw [names_of_readCondition read]
      cases value with
      | array items => exact isScalar.elim
      | _ => rfl
  | descriptor isField fits =>
      rw [ofMember_of_ofKey?_eq_none isField.ofKey?_eq_none] at read
      rw [names_of_readCondition read]
      rfl
  | @group junction objects hasBranch hasEntry areEntries induction =>
      rcases (ofMember_key_eq_ok_iff junction _ criterion).mp read with
        ⟨items, branches, spelled, branchesRead, validated⟩
      cases spelled
      rcases (validate_group_eq_ok_iff junction branches criterion).mp validated with
        ⟨_, _, rfl⟩
      rcases (ofBranches_eq_ok_iff junction _ branches).mp branchesRead with
        ⟨others, sameObjects, each⟩
      have injective : Function.Injective Json.object := fun _ _ same => Json.object.inj same
      cases List.map_injective_iff.mpr injective sameObjects
      have named :
          Filter.entryNames junction.key (.array (objects.map .object)) =
            objects.flatMap Filter.membersNames := by
        rw [Filter.entryNames, Junction.ofKey?_key, Filter.branchesNames_eq_flatMap]
        rfl
      rw [named, criterionFields, branchesFields_eq_flatMap, List.map_flatMap]
      apply Pointwise.flatMap_eq each
      intro object isObject branch branchRead
      exact names_of_ofMembers (fun entry isMember _ => induction object isObject entry isMember)
        branchRead

/-- A filter mentions the fields of its criteria. -/
theorem names_of_ofFilter
    {filter : Filter}
    {criteria : Criteria}
    (accepted : ofFilter filter = .ok criteria) :
    filter.names = (fields criteria).map Field.name := by
  cases filter with
  | all =>
      cases accepted
      rfl
  | identity id =>
      cases accepted
      rfl
  | object members =>
      have areEntries := (exists_ofMembers_iff members).mp ⟨criteria, accepted⟩
      exact
        names_of_ofMembers (fun entry isMember _ => names_of_ofMember (areEntries entry isMember))
          accepted

/-! ## From criteria to conditions -/

theorem tests_eq_flatMap (criteria : List Criterion) :
    tests criteria = criteria.flatMap criterionTests := by
  induction criteria with
  | nil => rfl
  | cons criterion rest induction => rw [tests, induction, List.flatMap_cons]

theorem branchesTests_eq_flatMap (branches : List (List Criterion)) :
    branchesTests branches = branches.flatMap tests := by
  induction branches with
  | nil => rfl
  | cons branch rest induction => rw [branchesTests, induction, List.flatMap_cons]

theorem mem_tests_iff (criteria : List Criterion) (test : Field × Operator) :
    test ∈ tests criteria ↔ ∃ member ∈ criteria, test ∈ criterionTests member := by
  rw [tests_eq_flatMap, List.mem_flatMap]

theorem mem_criterionTests_group_iff
    (junction : Junction)
    (branches : List (List Criterion))
    (test : Field × Operator) :
    test ∈ criterionTests (.group junction branches) ↔
      ∃ branch ∈ branches, ∃ member ∈ branch, test ∈ criterionTests member := by
  simp only [criterionTests, branchesTests_eq_flatMap, List.mem_flatMap, mem_tests_iff]

theorem criterionFields_eq_map (criterion : Criterion) :
    criterionFields criterion = (criterionTests criterion).map Prod.fst := by
  induction criterion using Criterion.branchInduction with
  | condition field operator => rfl
  | group junction branches induction =>
      rw [criterionFields, criterionTests, branchesFields_eq_flatMap, branchesTests_eq_flatMap,
        List.map_flatMap]
      apply List.flatMap_congr
      intro branch isBranch
      rw [fields_eq_flatMap, tests_eq_flatMap, List.map_flatMap]
      exact List.flatMap_congr (induction branch isBranch)

theorem fields_eq_map (criteria : List Criterion) :
    fields criteria = (tests criteria).map Prod.fst := by
  rw [fields_eq_flatMap, tests_eq_flatMap, List.map_flatMap]
  exact List.flatMap_congr fun criterion _ => criterionFields_eq_map criterion

section Listed

variable {α : Type} {list : Condition Value → List α} {item : Field × Operator → List α}

/-- What a list of conditions has, if each has what the tests of its criterion have. -/
theorem flatMap_conditions
    {criteria : List Criterion}
    (each :
      ∀ criterion ∈ criteria, ∀ part, criterionCondition criterion = .ok part →
        (criterionTests criterion).flatMap item = list part)
    {parts : List (Condition Value)}
    (made : conditions criteria = .ok parts) :
    (tests criteria).flatMap item = parts.flatMap list := by
  rw [tests_eq_flatMap, List.flatMap_assoc]
  exact Pointwise.flatMap_eq ((conditions_eq_ok_iff criteria parts).mp made) each

variable
  (list item)
  (list_join :
    ∀ junction left right, list (Condition.join junction left right) = list left ++ list right)
  (list_paren : ∀ inner, list (.paren inner) = list inner)
  (ofTest :
    ∀ test : Field × Operator, ∀ part, test.2.toCondition test.1.sqlName = .ok part →
      item test = list part)

include list_join list_paren ofTest

/-- What junctions put together and parentheses keep, a criterion has of its tests. -/
theorem flatMap_criterionCondition
    {criterion : Criterion}
    {part : Condition Value}
    (made : criterionCondition criterion = .ok part) :
    (criterionTests criterion).flatMap item = list part := by
  induction criterion using Criterion.branchInduction generalizing part with
  | condition field operator =>
      rw [criterionTests, List.flatMap_singleton]
      exact ofTest (field, operator) part made
  | group junction branches induction =>
      rcases Outcome.bind_eq_ok_iff.mp made with ⟨parts, branchesMade, isGroup⟩
      split at isGroup
      · next joined isJoined =>
          cases isGroup
          rw [criterionTests, branchesTests_eq_flatMap, List.flatMap_assoc, list_paren,
            Condition.flatMap_joinAll? (list_join junction) isJoined]
          apply Pointwise.flatMap_eq
            ((branchConditions_eq_ok_iff junction branches parts).mp branchesMade)
          rintro branch isBranch branchPart ⟨members, membersMade, isJoinedBranch⟩
          rw [flatMap_joinBranch (list_join .and) list_paren isJoinedBranch]
          exact flatMap_conditions
            (fun member isMember _ => induction branch isBranch member isMember) membersMade
      · contradiction

/-- What junctions put together and parentheses keep, a restriction has of the tests. -/
theorem flatMap_restriction
    {criteria : Criteria}
    {restriction : Restriction}
    (made : criteria.restriction = .ok restriction) :
    (tests criteria).flatMap item = restriction.condition.toList.flatMap list := by
  rcases Outcome.bind_eq_ok_iff.mp made with ⟨parts, partsMade, isRestriction⟩
  cases isRestriction
  rw [flatMap_conditions
    (fun _ _ _ => flatMap_criterionCondition list item list_join list_paren ofTest) partsMade]
  cases isJoined : Condition.joinAll? .and parts with
  | none =>
      cases (Condition.joinAll?_eq_none_iff .and parts).mp isJoined
      rfl
  | some joined =>
      rw [← Condition.flatMap_joinAll? (list_join .and) isJoined]
      simp

end Listed

/-- The condition on a column has this column only, and the operands of the operator. -/
theorem of_toCondition
    {column : String}
    {operator : Operator}
    {part : Condition Value}
    (made : operator.toCondition column = .ok part) :
    part.columns = [column] ∧ part.operands = operator.operands := by
  cases operator with
  | compare | isNull =>
      cases made
      exact ⟨rfl, rfl⟩
  | member negated members =>
      cases members with
      | nil => contradiction
      | cons first rest =>
          cases made
          exact ⟨rfl, rfl⟩

/-- The condition of criteria has the columns that their fields stand for. -/
theorem columns_of_restriction
    {criteria : Criteria}
    {restriction : Restriction}
    (made : criteria.restriction = .ok restriction)
    {condition : Condition Value}
    (isCondition : restriction.condition = some condition) :
    condition.columns = (fields criteria).map Field.sqlName := by
  have listed :=
    flatMap_restriction Condition.columns (fun test => [Field.sqlName test.1])
      (fun junction _ _ => by cases junction <;> rfl) (fun _ => rfl)
      (fun _ _ isPart => (of_toCondition isPart).1.symm) made
  rw [isCondition, Option.toList_some, List.flatMap_singleton] at listed
  rw [fields_eq_map, List.map_map, ← listed, List.map_eq_flatMap]
  rfl

/-- The parameters of criteria are the operands of their tests. -/
theorem parameters_eq_flatMap
    {criteria : Criteria}
    {restriction : Restriction}
    (made : criteria.restriction = .ok restriction) :
    restriction.parameters = (tests criteria).flatMap fun test => test.2.operands := by
  have listed :=
    flatMap_restriction Condition.operands (fun test => test.2.operands)
      (fun junction _ _ => by cases junction <;> rfl) (fun _ => rfl)
      (fun _ _ isPart => (of_toCondition isPart).2.symm) made
  rw [listed, Restriction.parameters]
  cases restriction.condition with
  | none => rfl
  | some condition => rw [Option.toList_some, List.flatMap_singleton]

/-- Criteria that test a field have a condition. -/
theorem fields_of_unrestricted
    {criteria : Criteria}
    {restriction : Restriction}
    (made : criteria.restriction = .ok restriction)
    (unrestricted : restriction.condition = none) :
    fields criteria = [] := by
  rcases Outcome.bind_eq_ok_iff.mp made with ⟨parts, partsMade, isRestriction⟩
  cases isRestriction
  cases (Condition.joinAll?_eq_none_iff .and parts).mp unrestricted
  have nothing := (Pointwise.eq_nil_iff ((conditions_eq_ok_iff criteria []).mp partsMade)).mpr rfl
  rw [nothing]
  rfl

/-- The column that a field stands for is one of the condition. -/
theorem exists_column
    {criteria : Criteria}
    {restriction : Restriction}
    (made : criteria.restriction = .ok restriction)
    {field : Field}
    (member : field ∈ fields criteria) :
    ∃ condition, restriction.condition = some condition ∧ field.sqlName ∈ condition.columns := by
  cases isCondition : restriction.condition with
  | none =>
      rw [fields_of_unrestricted made isCondition] at member
      contradiction
  | some condition =>
      refine ⟨condition, rfl, ?_⟩
      rw [columns_of_restriction made isCondition]
      exact List.mem_map_of_mem member

end Criteria

/-- What a filter mentions besides the identity is a column of its condition. -/
theorem Filter.exists_column
    {filter : Filter}
    {name : String}
    (mentions : name ∈ filter.names)
    (notIdentity : name ≠ Field.identityName)
    {restriction : Restriction}
    (made : filter.restriction = .ok restriction) :
    ∃ condition, restriction.condition = some condition ∧ name ∈ condition.columns := by
  rcases Outcome.bind_eq_ok_iff.mp made with ⟨criteria, accepted, criteriaMade⟩
  rw [Criteria.names_of_ofFilter accepted] at mentions
  rcases List.mem_map.mp mentions with ⟨field, isField, rfl⟩
  rw [← Field.sqlName_eq_name notIdentity]
  exact Criteria.exists_column criteriaMade isField

end RecordStore
