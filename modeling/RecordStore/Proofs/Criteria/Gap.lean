import RecordStore.Criteria.Gap
import RecordStore.Proofs.Criteria.Template

/-!
# Criteria without SQL are those with a gap

Every tree of criteria either becomes a restriction or is refused, whether or
not a caller can build it.  A refusal goes up from the gap that caused it, so
its fault is the fault of a gap; and no condition is made of a criterion that
has a gap, since a condition of a group needs one of each of its branches.

Main statement: `Criteria.restriction_fails_iff_hasGap`.
-/

namespace RecordStore

open Sql (Condition)

/-- A gap is the fault of whoever made the criteria, never of the translation. -/
theorem Criterion.HasGap.kind_eq
    {criterion : Criterion}
    {fault : CriteriaFault}
    (gap : criterion.HasGap fault) :
    fault.kind = .invalid := by
  induction gap with
  | emptySet | noBranch | emptyBranch => rfl
  | inBranch _ _ _ _ isInvalid => exact isInvalid

namespace Criteria

/-! ## A refusal comes from a gap -/

theorem exists_member_of_conditions_eq_error
    {criteria : List Criterion}
    {fault : CriteriaFault}
    (refused : conditions criteria = .error fault) :
    ∃ member ∈ criteria, criterionCondition member = .error fault := by
  induction criteria with
  | nil => contradiction
  | cons criterion rest induction =>
      rw [conditions] at refused
      rcases Outcome.bind_eq_error_iff.mp refused with atFirst | ⟨first, -, refused⟩
      · exact ⟨criterion, List.mem_cons_self, atFirst⟩
      rcases Outcome.bind_eq_error_iff.mp refused with inRest | ⟨others, -, done⟩
      · rcases induction inRest with ⟨member, isMember, atMember⟩
        exact ⟨member, List.mem_cons_of_mem criterion isMember, atMember⟩
      · contradiction

theorem exists_branch_of_branchConditions_eq_error
    {junction : Junction}
    {branches : List (List Criterion)}
    {fault : CriteriaFault}
    (refused : branchConditions junction branches = .error fault) :
    ([] ∈ branches ∧ fault = .emptyBranch junction) ∨
      ∃ branch ∈ branches, conditions branch = .error fault := by
  induction branches with
  | nil => contradiction
  | cons branch rest induction =>
      rw [branchConditions] at refused
      rcases Outcome.bind_eq_error_iff.mp refused with inBranch | ⟨parts, made, refused⟩
      · exact .inr ⟨branch, List.mem_cons_self, inBranch⟩
      split at refused
      · next noPart =>
          cases refused
          have noParts : parts = [] := by
            by_contra hasPart
            rcases exists_joinBranch hasPart with ⟨part, isJoined⟩
            rw [noPart] at isJoined
            contradiction
          subst noParts
          cases (conditions_eq_ok_iff branch []).mp made
          exact .inl ⟨List.mem_cons_self, rfl⟩
      · next first isJoined =>
          rcases Outcome.bind_eq_error_iff.mp refused with inRest | ⟨others, -, done⟩
          · rcases induction inRest with ⟨isEmpty, isFault⟩ | ⟨other, isOther, inOther⟩
            · exact .inl ⟨List.mem_cons_of_mem branch isEmpty, isFault⟩
            · exact .inr ⟨other, List.mem_cons_of_mem branch isOther, inOther⟩
          · contradiction

/-- The fault of a criterion that has no condition is the fault of a gap in it. -/
theorem hasGap_of_criterionCondition_eq_error
    {criterion : Criterion}
    {fault : CriteriaFault}
    (refused : criterionCondition criterion = .error fault) :
    criterion.HasGap fault := by
  induction criterion using Criterion.branchInduction with
  | condition field operator =>
      cases operator with
      | member negated members =>
          cases members with
          | nil =>
              cases refused
              exact .emptySet field negated
          | cons first rest => contradiction
      | compare comparison operand => contradiction
      | isNull flag => contradiction
  | group junction branches induction =>
      rw [criterionCondition] at refused
      rcases Outcome.bind_eq_error_iff.mp refused with inBranches | ⟨parts, made, refused⟩
      · rcases exists_branch_of_branchConditions_eq_error inBranches with
          ⟨isEmpty, rfl⟩ | ⟨branch, isBranch, inBranch⟩
        · exact .emptyBranch junction isEmpty
        · rcases exists_member_of_conditions_eq_error inBranch with ⟨member, isMember, atMember⟩
          exact
            .inBranch junction isBranch isMember
              (induction branch isBranch member isMember atMember)
      split at refused
      · contradiction
      · next noPart =>
          cases refused
          cases (Condition.joinAll?_eq_none_iff junction parts).mp noPart
          cases (branchConditions_eq_ok_iff junction branches []).mp made
          exact .noBranch junction

/-! ## No condition is made over a gap -/

theorem exists_branchCondition
    {junction : Junction}
    {branches : List (List Criterion)}
    {part : Condition Value}
    (made : criterionCondition (.group junction branches) = .ok part)
    {branch : List Criterion}
    (isBranch : branch ∈ branches) :
    ∃ branchPart, BranchCondition branch branchPart := by
  rw [criterionCondition] at made
  rcases Outcome.bind_eq_ok_iff.mp made with ⟨parts, partsMade, -⟩
  have each := (branchConditions_eq_ok_iff junction branches parts).mp partsMade
  rcases Pointwise.exists_right each isBranch with ⟨branchPart, -, isCondition⟩
  exact ⟨branchPart, isCondition⟩

theorem criterionCondition_ne_ok
    {criterion : Criterion}
    {fault : CriteriaFault}
    (gap : criterion.HasGap fault)
    (part : Condition Value) :
    criterionCondition criterion ≠ .ok part := by
  induction gap generalizing part with
  | emptySet | noBranch =>
      intro made
      contradiction
  | emptyBranch junction isBranch =>
      intro made
      rcases exists_branchCondition made isBranch with ⟨branchPart, parts, partsMade, isJoined⟩
      cases partsMade
      contradiction
  | inBranch junction isBranch isMember gap induction =>
      intro made
      rcases exists_branchCondition made isBranch with ⟨branchPart, parts, partsMade, -⟩
      have each := (conditions_eq_ok_iff _ parts).mp partsMade
      rcases Pointwise.exists_right each isMember with ⟨memberPart, -, memberMade⟩
      exact induction memberPart memberMade

/-! ## Restrictions -/

theorem restriction_eq_error_iff (criteria : Criteria) (fault : CriteriaFault) :
    criteria.restriction = .error fault ↔ conditions criteria = .error fault := by
  rw [restriction, Outcome.bind_eq_error_iff]
  simp

theorem hasGap_of_restriction_eq_error
    {criteria : Criteria}
    {fault : CriteriaFault}
    (refused : criteria.restriction = .error fault) :
    criteria.HasGap fault := by
  have inConditions := (restriction_eq_error_iff criteria fault).mp refused
  rcases exists_member_of_conditions_eq_error inConditions with ⟨member, isMember, atMember⟩
  exact ⟨member, isMember, hasGap_of_criterionCondition_eq_error atMember⟩

theorem HasGap.restriction_eq_error
    {criteria : Criteria}
    {fault : CriteriaFault}
    (gap : criteria.HasGap fault) :
    ∃ reported, criteria.restriction = .error reported := by
  rcases gap with ⟨member, isMember, gap⟩
  cases made : conditions criteria with
  | error reported => exact ⟨reported, (restriction_eq_error_iff criteria reported).mpr made⟩
  | ok parts =>
      have each := (conditions_eq_ok_iff criteria parts).mp made
      rcases Pointwise.exists_right each isMember with ⟨part, -, memberMade⟩
      exact absurd memberMade (criterionCondition_ne_ok gap part)

/--
Exactly the criteria with a gap have no restriction, among all trees there
are.  The fault that is reported is the fault of a gap in the tree, and it is
always one of malformed criteria: no operator is met that SQL cannot express.
-/
theorem restriction_fails_iff_hasGap (criteria : Criteria) :
    ((∃ fault, criteria.restriction = .error fault) ↔ ∃ fault, criteria.HasGap fault) ∧
      ∀ fault, criteria.restriction = .error fault →
        criteria.HasGap fault ∧ fault.kind = .invalid := by
  constructor
  · constructor
    · rintro ⟨fault, refused⟩
      exact ⟨fault, hasGap_of_restriction_eq_error refused⟩
    · rintro ⟨fault, gap⟩
      exact gap.restriction_eq_error
  · intro fault refused
    rcases hasGap_of_restriction_eq_error refused with ⟨member, isMember, gap⟩
    exact ⟨⟨member, isMember, gap⟩, gap.kind_eq⟩

/-- A sound condition, and a set without members two groups down. -/
def hollow : Criteria :=
  [.condition .identity (.isNull false),
    .group .or [[.group .and [[.condition (.column "age") (.member true [])]]]]]

/-- The set is found behind the sound condition, and reported. -/
theorem hollow_is_refused :
    hollow.restriction = .error (.emptySetOn true "age") ∧
      hollow.HasGap (.emptySetOn true "age") ∧
      (CriteriaFault.emptySetOn true "age").kind = .invalid := by
  have refused : hollow.restriction = .error (.emptySetOn true "age") := rfl
  exact ⟨refused, (restriction_fails_iff_hasGap hollow).2 _ refused⟩

end Criteria

end RecordStore
