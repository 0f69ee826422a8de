import RecordStore.Criteria.Built
import RecordStore.Proofs.Operator
import RecordStore.Proofs.Pointwise

/-!
# Well-formed criteria from validation

Validation looks at the outermost level of a criterion only.  It makes
criteria well formed at every level because the branches of a group are
criteria that were made before, and so are well formed already.  A builder
keeps that invariant step by step.
-/

namespace RecordStore

namespace Field

theorem wellFormed_of_read
    {name : String}
    {field : Field}
    (accepted : read name = .ok field) :
    field.WellFormed := by
  have parsed : parse name = .ok field := Outcome.mapError_eq_ok_iff.mp accepted
  unfold parse at parsed
  split_ifs at parsed with isIdentity
  · cases parsed
    trivial
  · rcases Outcome.bind_eq_ok_iff.mp parsed with ⟨checked, isIdentifier, equal⟩
    cases equal
    exact isIdentifier

theorem wellFormed_of_validate
    {field : Field}
    (accepted : field.validate = .ok ()) :
    field.WellFormed := by
  cases field with
  | identity => trivial
  | column name => exact Outcome.mapError_eq_ok_iff.mp accepted

end Field

namespace Criteria

theorem wellFormed_iff (criteria : List Criterion) :
    WellFormed criteria ↔ ∀ member ∈ criteria, WellFormedCriterion member := by
  induction criteria with
  | nil => simp [WellFormed]
  | cons criterion rest induction => simp [WellFormed, induction]

theorem wellFormedBranches_iff (branches : List (List Criterion)) :
    WellFormedBranches branches ↔
      ∀ branch ∈ branches, branch ≠ [] ∧ WellFormed branch := by
  induction branches with
  | nil => simp [WellFormedBranches]
  | cons branch rest induction => simp [WellFormedBranches, induction]

/-- A group is validated, and left as it is, exactly when it and its branches have members. -/
theorem validate_group_eq_ok_iff
    (junction : Junction)
    (branches : List (List Criterion))
    (validated : Criterion) :
    (Criterion.group junction branches).validate = .ok validated ↔
      branches ≠ [] ∧ (∀ branch ∈ branches, branch ≠ []) ∧
        validated = .group junction branches := by
  have anyEmpty : branches.any List.isEmpty = true ↔ [] ∈ branches := by
    simp
  have noneEmpty : (∀ branch ∈ branches, branch ≠ []) ↔ [] ∉ branches := by
    constructor
    · intro nonempty member
      exact nonempty [] member rfl
    · rintro free branch member rfl
      exact free member
  simp only [Criterion.validate, List.isEmpty_iff, noneEmpty]
  split_ifs with isEmpty hasEmpty
  · simp [isEmpty]
  · have member : [] ∈ branches := anyEmpty.mp hasEmpty
    simp [member]
  · have free : [] ∉ branches := fun member => hasEmpty (anyEmpty.mpr member)
    simp [isEmpty, free, eq_comm]

/-- A validated criterion is well formed, if the branches in it are. -/
theorem wellFormed_of_validate
    {criterion validated : Criterion}
    (branchesWellFormed : ∀ branch ∈ criterion.branches, WellFormed branch)
    (accepted : criterion.validate = .ok validated) :
    WellFormedCriterion validated := by
  cases criterion with
  | condition field operator =>
      rcases Outcome.bind_eq_ok_iff.mp accepted with ⟨checked, fieldAccepted, accepted⟩
      rcases Outcome.bind_eq_ok_iff.mp accepted with ⟨normalized, operatorAccepted, equal⟩
      cases equal
      exact
        ⟨Field.wellFormed_of_validate fieldAccepted,
          Operator.wellFormed_of_normalize
            (Outcome.mapError_eq_ok_iff.mp operatorAccepted)⟩
  | group junction branches =>
      rcases
          (validate_group_eq_ok_iff junction branches validated).mp accepted with
        ⟨hasBranch, nonempty, rfl⟩
      refine ⟨hasBranch, (wellFormedBranches_iff branches).mpr ?_⟩
      intro branch member
      exact ⟨nonempty branch member, branchesWellFormed branch member⟩

theorem wellFormed_of_ofList
    {members : List Criterion}
    {criteria : Criteria}
    (branchesWellFormed :
      ∀ member ∈ members, ∀ branch ∈ member.branches, WellFormed branch)
    (accepted : ofList members = .ok criteria) :
    WellFormed criteria := by
  apply (wellFormed_iff criteria).mpr
  intro validated isMember
  rcases Pointwise.exists_left (Pointwise.mapM_eq_ok_iff.mp accepted) isMember with
    ⟨member, isGiven, isValidated⟩
  exact wellFormed_of_validate (branchesWellFormed member isGiven) isValidated

end Criteria

namespace CriteriaBuilder

/-- What a builder has collected is well formed. -/
def Invariant (builder : CriteriaBuilder) : Prop :=
  ∀ criteria, builder.build = .ok criteria → Criteria.WellFormed criteria

theorem empty_invariant : empty.Invariant := by
  intro criteria accepted
  cases accepted
  trivial

/-- Adding a well-formed criterion, or none, keeps the invariant. -/
theorem Invariant.add
    {builder : CriteriaBuilder}
    (invariant : builder.Invariant)
    {criterion : Except CriteriaFault Criterion}
    (wellFormed :
      ∀ added, criterion = .ok added → Criteria.WellFormedCriterion added) :
    (builder.add criterion).Invariant := by
  intro criteria accepted
  rcases Outcome.bind_eq_ok_iff.mp accepted with ⟨collected, before, accepted⟩
  rcases Outcome.bind_eq_ok_iff.mp accepted with ⟨added, isAdded, equal⟩
  cases equal
  apply (Criteria.wellFormed_iff _).mpr
  intro member isMember
  rcases List.mem_append.mp isMember with old | new
  · exact (Criteria.wellFormed_iff collected).mp (invariant collected before) member old
  · rcases List.mem_singleton.mp new with rfl
    exact wellFormed member isAdded

/-- A step keeps the invariant, if the branches that it adds are well formed. -/
theorem Invariant.take
    {builder : CriteriaBuilder}
    (invariant : builder.Invariant)
    {step : Step}
    (branchesWellFormed : ∀ branch ∈ step.branches, Criteria.WellFormed branch) :
    (builder.take step).Invariant := by
  cases step with
  | condition name operator =>
      apply invariant.add
      intro added accepted
      rcases Outcome.bind_eq_ok_iff.mp accepted with ⟨field, fieldRead, accepted⟩
      exact Criteria.wellFormed_of_validate (by simp [Criterion.branches]) accepted
  | group junction branches =>
      apply invariant.add
      intro added accepted
      have groupWellFormed :
          ∀ branch ∈ (Criterion.group junction branches).branches,
            Criteria.WellFormed branch :=
        branchesWellFormed
      exact Criteria.wellFormed_of_validate groupWellFormed accepted

/-- The criteria of a chain of steps are well formed, if the branches in the steps are. -/
theorem invariant_ofSteps
    {steps : List Step}
    (branchesWellFormed :
      ∀ step ∈ steps, ∀ branch ∈ step.branches, Criteria.WellFormed branch) :
    (ofSteps steps).Invariant := by
  have run
      (steps : List Step)
      (branchesWellFormed :
        ∀ step ∈ steps, ∀ branch ∈ step.branches, Criteria.WellFormed branch)
      (builder : CriteriaBuilder)
      (invariant : builder.Invariant) :
      (steps.foldl CriteriaBuilder.take builder).Invariant := by
    induction steps generalizing builder with
    | nil => exact invariant
    | cons step steps induction =>
        apply induction
        · intro later member
          exact branchesWellFormed later (List.mem_cons_of_mem step member)
        · exact invariant.take (branchesWellFormed step List.mem_cons_self)
  exact run steps branchesWellFormed empty empty_invariant

end CriteriaBuilder

end RecordStore
