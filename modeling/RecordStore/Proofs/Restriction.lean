import RecordStore.Proofs.Criteria.Grammar
import RecordStore.Proofs.Sql.Characters
import RecordStore.Proofs.Sql.Join
import RecordStore.Proofs.Sql.Reading
import RecordStore.Restriction

/-!
# Restrictions mean what the criteria mean

Well-formed criteria become a condition that is legible and has the outcome
of the criteria, whatever the comparisons on the columns come to.  Since
legible conditions are read back from their text, the text with its
parameters means the same as the criteria: no grouping is lost where
parentheses are left out, and no parameter is bound to a foreign placeholder.
-/

namespace RecordStore

open Sql (Condition Interpretation Truth)
open Sql.Condition (Legible)
open Sql.Condition.Lexeme (IsColumn)

/-- What holds of conditions, and of groups whenever it holds in their branches, holds always. -/
@[elab_as_elim]
theorem Criterion.branchInduction
    {motive : Criterion → Prop}
    (condition : ∀ field operator, motive (.condition field operator))
    (group :
      ∀ junction branches,
        (∀ branch ∈ branches, ∀ member ∈ branch, motive member) →
        motive (.group junction branches))
    (criterion : Criterion) :
    motive criterion := by
  refine
    @Criterion.rec
      motive
      (fun branches => ∀ branch ∈ branches, ∀ member ∈ branch, motive member)
      (fun branch => ∀ member ∈ branch, motive member)
      condition group ?_ ?_ ?_ ?_ criterion
  · intro branch member
    contradiction
  · intro first rest firstHolds restHold branch member
    rcases List.mem_cons.mp member with rfl | inRest
    · exact firstHolds
    · exact restHold branch inRest
  · intro criterion member
    contradiction
  · intro first rest firstHolds restHold criterion member
    rcases List.mem_cons.mp member with rfl | inRest
    · exact firstHolds
    · exact restHold criterion inRest

namespace Field

/-- The name of a well-formed field in SQL can name a column. -/
theorem isColumn_sqlName
    {field : Field}
    (wellFormed : field.WellFormed) :
    IsColumn field.sqlName := by
  cases field with
  | identity => exact ⟨by decide +kernel, by decide⟩
  | column name =>
      rcases
          (Identifier.check_eq_ok_iff name).mp wellFormed with
        ⟨first, rest, spelled, -, isStart, -, free⟩
      have notKeyword : Text.upper name ∉ Keyword.table := by
        intro member
        rw [(Keyword.isReserved_iff name).mpr member] at free
        contradiction
      constructor
      · rw [Sql.Condition.Lexeme.isName, sqlName, String.ofList_toList, spelled]
        simp [notKeyword, isStart]
      · apply List.all_eq_true.mpr
        intro c member
        exact Identifier.isContinuation_of_mem wellFormed member

end Field

namespace Operator

/-- A well-formed operator becomes a test of its column with the same outcome. -/
theorem exists_toCondition
    {column : String}
    (isColumn : IsColumn column)
    {operator : Operator}
    (wellFormed : operator.WellFormed) :
    ∃ condition, operator.toCondition column = .ok condition ∧
      Legible .factor condition ∧
      ∀ interpretation,
        condition.eval interpretation = operator.eval interpretation column := by
  cases operator with
  | compare comparison operand =>
      exact ⟨.compare column comparison operand, rfl, .compare isColumn, fun _ => rfl⟩
  | member negated members =>
      cases members with
      | nil => exact absurd rfl wellFormed.1
      | cons first rest =>
          exact
            ⟨.member column negated (first :: rest), rfl,
              .member isColumn (List.cons_ne_nil first rest), fun _ => rfl⟩
  | isNull flag =>
      exact ⟨.isNull column !flag, rfl, .isNull isColumn, fun _ => rfl⟩

end Operator

namespace Criteria

/-! ## Members and branches one by one -/

theorem eval_eq_all (interpretation : Interpretation Value) (criteria : List Criterion) :
    eval interpretation criteria =
      Truth.all (criteria.map (evalCriterion interpretation)) := by
  induction criteria with
  | nil => rfl
  | cons criterion rest induction =>
      simp only [eval, induction, List.map_cons, Truth.all, List.foldr_cons]

theorem evalBranches_eq_map
    (interpretation : Interpretation Value)
    (branches : List (List Criterion)) :
    evalBranches interpretation branches = branches.map (eval interpretation) := by
  induction branches with
  | nil => rfl
  | cons branch rest induction => simp only [evalBranches, induction, List.map_cons]

theorem conditions_eq_mapM (criteria : List Criterion) :
    conditions criteria = criteria.mapM criterionCondition := by
  induction criteria with
  | nil => rw [conditions, List.mapM_nil]; rfl
  | cons criterion rest induction => rw [conditions, List.mapM_cons, induction]; rfl

theorem conditions_eq_ok_iff
    (criteria : List Criterion)
    (parts : List (Condition Value)) :
    conditions criteria = .ok parts ↔
      List.Forall₂ (fun criterion part => criterionCondition criterion = .ok part)
        criteria parts := by
  rw [conditions_eq_mapM, Pointwise.mapM_eq_ok_iff]

/-- The condition of one branch of a group. -/
def BranchCondition (branch : List Criterion) (part : Condition Value) : Prop :=
  ∃ parts, conditions branch = .ok parts ∧ joinBranch parts = some part

/-- The conditions of branches are made one by one. -/
theorem branchConditions_eq_ok_iff
    (junction : Junction)
    (branches : List (List Criterion))
    (parts : List (Condition Value)) :
    branchConditions junction branches = .ok parts ↔
      List.Forall₂ BranchCondition branches parts := by
  induction branches generalizing parts with
  | nil => simp [branchConditions, eq_comm]
  | cons branch rest induction =>
      simp only [branchConditions, Outcome.bind_eq_ok_iff]
      constructor
      · rintro ⟨members, made, accepted⟩
        split at accepted
        · contradiction
        · next part joined =>
            rcases Outcome.bind_eq_ok_iff.mp accepted with ⟨others, following, equal⟩
            cases equal
            exact .cons ⟨members, made, joined⟩ ((induction others).mp following)
      · intro each
        cases each with
        | @cons _ part _ others first following =>
            rcases first with ⟨members, made, joined⟩
            refine ⟨members, made, ?_⟩
            simp [joined, (induction others).mpr following]

/-! ## Conditions with the meaning of the criteria -/

/-- The condition is a factor with the given outcome. -/
def Means (part : Condition Value) (outcome : Interpretation Value → Truth) : Prop :=
  Legible .factor part ∧ ∀ interpretation, part.eval interpretation = outcome interpretation

/-- Joined factors are legible, and combine the outcomes of what they stand for. -/
theorem joined_of_means
    {α : Type}
    {outcome : α → Interpretation Value → Truth}
    {items : List α}
    {parts : List (Condition Value)}
    (each : List.Forall₂ (fun item part => Means part (outcome item)) items parts)
    {junction : Junction}
    {joined : Condition Value}
    (isJoined : Condition.joinAll? junction parts = some joined) :
    Legible .sum joined ∧
      ∀ interpretation,
        joined.eval interpretation =
          junction.combine (items.map fun item => outcome item interpretation) := by
  constructor
  · have factors : ∀ part ∈ parts, Legible .factor part := by
      intro part member
      rcases Pointwise.exists_left each member with ⟨item, -, means⟩
      exact means.1
    exact Condition.legible_joinAll? factors isJoined
  · intro interpretation
    rw [Condition.eval_joinAll? isJoined]
    apply congrArg junction.combine
    clear isJoined
    induction each with
    | nil => rfl
    | cons means following induction =>
        rw [List.map_cons, List.map_cons, induction, means.2 interpretation]

/-- The condition of a criterion, with the criterion's outcome. -/
def Represents (criterion : Criterion) (part : Condition Value) : Prop :=
  criterionCondition criterion = .ok part ∧
    Means part (fun interpretation => evalCriterion interpretation criterion)

/-- The condition of a branch, with the branch's outcome. -/
def RepresentsBranch (branch : List Criterion) (part : Condition Value) : Prop :=
  BranchCondition branch part ∧
    Means part (fun interpretation => eval interpretation branch)

theorem conditions_of_represents
    {criteria : List Criterion}
    {parts : List (Condition Value)}
    (each : List.Forall₂ Represents criteria parts) :
    conditions criteria = .ok parts := by
  apply (conditions_eq_ok_iff criteria parts).mpr
  exact each.imp fun criterion part represents => represents.1

/-- What represents all members is joined to what has the outcome of the conjunction. -/
theorem joined_of_represents
    {criteria : List Criterion}
    {parts : List (Condition Value)}
    (each : List.Forall₂ Represents criteria parts)
    {joined : Condition Value}
    (isJoined : Condition.joinAll? .and parts = some joined) :
    Legible .sum joined ∧
      ∀ interpretation, joined.eval interpretation = eval interpretation criteria := by
  have means := each.imp fun criterion part represents => represents.2
  rcases joined_of_means means isJoined with ⟨legible, outcome⟩
  refine ⟨legible, ?_⟩
  intro interpretation
  rw [outcome, eval_eq_all]
  rfl

/-- A branch whose members are represented is represented. -/
theorem exists_representsBranch
    {branch : List Criterion}
    (nonempty : branch ≠ [])
    {parts : List (Condition Value)}
    (each : List.Forall₂ Represents branch parts) :
    ∃ part, RepresentsBranch branch part := by
  have made := conditions_of_represents each
  cases each with
  | nil => exact absurd rfl nonempty
  | @cons criterion only rest parts represents following =>
      cases following with
      | nil =>
          refine ⟨only, ⟨[only], made, rfl⟩, represents.2.1, ?_⟩
          intro interpretation
          simp [eval, represents.2.2]
      | @cons _ second _ others secondRepresents following =>
          have isJoined :
              Condition.joinAll? .and (only :: second :: others) =
                some ((second :: others).foldl (Condition.join .and) only) :=
            rfl
          rcases
              joined_of_represents
                (.cons represents (.cons secondRepresents following)) isJoined with
            ⟨legible, outcome⟩
          exact ⟨_, ⟨_, made, rfl⟩, .paren legible, outcome⟩

theorem exists_represents_group
    (junction : Junction)
    {branches : List (List Criterion)}
    (hasBranch : branches ≠ [])
    {parts : List (Condition Value)}
    (each : List.Forall₂ RepresentsBranch branches parts) :
    ∃ part, Represents (.group junction branches) part := by
  have made : branchConditions junction branches = .ok parts := by
    apply (branchConditions_eq_ok_iff junction branches parts).mpr
    exact each.imp fun branch part represents => represents.1
  have hasPart : parts ≠ [] := mt (Pointwise.eq_nil_iff each).mpr hasBranch
  rcases Condition.exists_joinAll? junction hasPart with ⟨joined, isJoined⟩
  have means := each.imp fun branch part represents => represents.2
  rcases joined_of_means means isJoined with ⟨legible, outcome⟩
  refine ⟨.paren joined, ?_, .paren legible, ?_⟩
  · simp [criterionCondition, made, isJoined]
  · intro interpretation
    simp only [Condition.eval, outcome, evalCriterion, evalBranches_eq_map]

theorem exists_represents
    {criterion : Criterion}
    (wellFormed : WellFormedCriterion criterion) :
    ∃ part, Represents criterion part := by
  induction criterion using Criterion.branchInduction with
  | condition field operator =>
      exact Operator.exists_toCondition (Field.isColumn_sqlName wellFormed.1) wellFormed.2
  | group junction branches induction =>
      rcases wellFormed with ⟨hasBranch, areProper⟩
      have branchRepresented :
          ∀ branch ∈ branches, ∃ part, RepresentsBranch branch part := by
        intro branch isBranch
        rcases (wellFormedBranches_iff branches).mp areProper branch isBranch with
          ⟨nonempty, branchWellFormed⟩
        have members := (wellFormed_iff branch).mp branchWellFormed
        rcases
            Pointwise.exists_related fun member isMember =>
              induction branch isBranch member isMember (members member isMember) with
          ⟨parts, each⟩
        exact exists_representsBranch nonempty each
      rcases Pointwise.exists_related branchRepresented with ⟨parts, each⟩
      exact exists_represents_group junction hasBranch each

/-! ## Restrictions -/

/-- Well-formed criteria have a restriction, whose condition represents them all. -/
theorem exists_restriction
    {criteria : Criteria}
    (wellFormed : WellFormed criteria) :
    ∃ restriction, criteria.restriction = .ok restriction ∧
      (restriction.condition = none ↔ criteria = []) ∧
      ∀ condition, restriction.condition = some condition →
        Legible .sum condition ∧
          ∀ interpretation, condition.eval interpretation = eval interpretation criteria := by
  rcases
      Pointwise.exists_related fun member isMember =>
        exists_represents ((wellFormed_iff criteria).mp wellFormed member isMember) with
    ⟨parts, each⟩
  refine ⟨⟨Condition.joinAll? .and parts⟩, ?_, ?_, ?_⟩
  · rw [restriction, conditions_of_represents each, Outcome.ok_bind]
  · rw [Condition.joinAll?_eq_none_iff, Pointwise.eq_nil_iff each]
  · intro condition isJoined
    exact joined_of_represents each isJoined

theorem Built.wellFormed
    {criteria : Criteria}
    (built : Built criteria) :
    WellFormed criteria := by
  induction built with
  | all => trivial
  | ofFilter accepted => exact wellFormed_of_ofFilter accepted
  | ofList branchesBuilt accepted induction =>
      exact wellFormed_of_ofList induction accepted
  | ofSteps branchesBuilt accepted induction =>
      exact CriteriaBuilder.invariant_ofSteps induction _ accepted

/-- A disjunction whose second branch is a conjunction. -/
def sample : Criteria :=
  [.group .or
    [[.condition (.column "label") (.compare .equal (.text "Ada"))],
      [.condition (.column "age") (.compare .less (.integer 30)),
        .condition (.column "city") (.isNull true)]]]

/-- A list whose branches come from a filter and from a builder makes the sample. -/
theorem sample_built : Built sample := by
  have label : Field.parse "label" = .ok (.column "label") := by decide +kernel
  have age : Field.parse "age" = .ok (.column "age") := by decide +kernel
  have city : Field.parse "city" = .ok (.column "city") := by decide +kernel
  have ageChecked : Identifier.check "age" = .ok () := by decide +kernel
  have cityChecked : Identifier.check "city" = .ok () := by decide +kernel
  have named : Built [.condition (.column "label") (.compare .equal (.text "Ada"))] := by
    have accepted :
        ofFilter (.object [("label", .text "Ada")]) =
          .ok [.condition (.column "label") (.compare .equal (.text "Ada"))] := by
      simp only [ofFilter, ofMembers, ofMember, readCondition, Field.read, label]
      rfl
    exact .ofFilter accepted
  have young :
      Built
        [.condition (.column "age") (.compare .less (.integer 30)),
          .condition (.column "city") (.isNull true)] := by
    have accepted :
        (CriteriaBuilder.ofSteps
            [.condition "age" (.compare .less (.integer 30)),
              .condition "city" (.compare .equal .null)]).build =
          .ok
            [.condition (.column "age") (.compare .less (.integer 30)),
              .condition (.column "city") (.isNull true)] := by
      simp [CriteriaBuilder.ofSteps, CriteriaBuilder.take, CriteriaBuilder.build,
        CriteriaBuilder.empty, CriteriaBuilder.add, CriteriaBuilder.condition, Field.read,
        age, city, Criterion.validate, Field.validate, ageChecked, cityChecked,
        Operator.normalize]
    exact .ofSteps (by simp [CriteriaBuilder.Step.branches]) accepted
  have accepted : ofList sample = .ok sample := rfl
  refine .ofList ?_ accepted
  simp [sample, Criterion.branches, named, young]

/--
The text of a restriction, with its parameters bound to its placeholders from
left to right, has the outcome of the criteria.

This is so for every way in which columns can compare with operands and be
null, hence for every assignment of values to the columns and every
three-valued comparison of values.
-/
theorem restriction_preserves_meaning
    {criteria : Criteria}
    (built : Built criteria) :
    ∃ restriction, criteria.restriction = .ok restriction ∧
      ∀ interpretation : Interpretation Value,
        Condition.evalText? interpretation restriction.fragment restriction.parameters =
          some (eval interpretation criteria) := by
  rcases exists_restriction built.wellFormed with ⟨restriction, made, empty, represents⟩
  refine ⟨restriction, made, ?_⟩
  intro interpretation
  cases isCondition : restriction.condition with
  | none =>
      have noMembers : criteria = [] := empty.mp isCondition
      subst noMembers
      simp [Restriction.fragment, Restriction.parameters, isCondition,
        Condition.evalText?, eval]
  | some condition =>
      rcases represents condition isCondition with ⟨legible, outcome⟩
      simp only [Restriction.fragment, Restriction.parameters, isCondition]
      rw [Condition.evalText?_text legible, outcome]

/-- No comparison is known, and no column is null. -/
def ignorance : Interpretation Value :=
  ⟨fun _ _ _ => .unknown, fun _ => false⟩

/-- The text of the sample is unknown, as the sample is; grouped from the left it would fail. -/
theorem sample_text_is_unknown :
    Condition.evalText? ignorance "(label = ? OR (age < ? AND city IS NULL))"
        [.text "Ada", .integer 30] =
      some .unknown := by
  have made :
      sample.restriction =
        .ok
          ⟨some
            (.paren
              (.or (.compare "label" .equal (.text "Ada"))
                (.paren
                  (.and (.compare "age" .less (.integer 30)) (.isNull "city" false)))))⟩ :=
    rfl
  rcases restriction_preserves_meaning sample_built with ⟨restriction, same, preserved⟩
  rcases Except.ok.inj (made.symm.trans same) with rfl
  have outcome := preserved ignorance
  have unknown : eval ignorance sample = .unknown := rfl
  rw [unknown] at outcome
  exact outcome

/--
The criteria that a caller can have are well formed at every level, and so
have a restriction.  Every placeholder of its text has its parameter, and
only empty criteria have an empty text.
-/
theorem placeholders_match_parameters
    {criteria : Criteria}
    (built : Built criteria) :
    WellFormed criteria ∧
      ∃ restriction, criteria.restriction = .ok restriction ∧
        restriction.placeholderCount = restriction.parameters.length ∧
        (restriction.fragment = "" ↔ criteria = []) := by
  refine ⟨built.wellFormed, ?_⟩
  rcases exists_restriction built.wellFormed with ⟨restriction, made, empty, represents⟩
  refine ⟨restriction, made, ?_⟩
  cases isCondition : restriction.condition with
  | none =>
      have noMembers : criteria = [] := empty.mp isCondition
      simp [Restriction.placeholderCount, Restriction.fragment, Restriction.parameters,
        isCondition, noMembers]
  | some condition =>
      rcases represents condition isCondition with ⟨legible, -⟩
      have hasMembers : criteria ≠ [] := by
        intro noMembers
        rw [empty.mpr noMembers] at isCondition
        contradiction
      simp [Restriction.placeholderCount, Restriction.fragment, Restriction.parameters,
        isCondition, Condition.text, Condition.count_write legible,
        Condition.write_ne_nil, hasMembers]

/-- The sample is well formed, and its placeholders have their parameters. -/
theorem sample_parameters :
    WellFormed sample ∧
      ∃ restriction, sample.restriction = .ok restriction ∧
        restriction.placeholderCount = restriction.parameters.length ∧
        (restriction.fragment = "" ↔ sample = []) :=
  placeholders_match_parameters sample_built

end Criteria

end RecordStore
