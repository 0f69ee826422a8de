import RecordStore.Criteria.Basic

/-!
# Gaps in criteria

A tree of criteria has a gap where there is nothing to write in SQL: a set
without members, a group without branches, or a branch without members.
Every gap has its fault, which names the place it was found at.
-/

namespace RecordStore

/-- The criterion has a gap at some depth, and this is the fault of the gap. -/
inductive Criterion.HasGap : Criterion → CriteriaFault → Prop where
  | emptySet (field : Field) (negated : Bool) :
      HasGap (.condition field (.member negated [])) (.emptySetOn negated field.sqlName)
  | noBranch (junction : Junction) :
      HasGap (.group junction []) (.noBranch junction)
  | emptyBranch
      (junction : Junction)
      {branches : List (List Criterion)}
      (isBranch : [] ∈ branches) :
      HasGap (.group junction branches) (.emptyBranch junction)
  | inBranch
      (junction : Junction)
      {branches : List (List Criterion)}
      {branch : List Criterion}
      {member : Criterion}
      {fault : CriteriaFault}
      (isBranch : branch ∈ branches)
      (isMember : member ∈ branch)
      (gap : HasGap member fault) :
      HasGap (.group junction branches) fault

/-- The criteria have a gap in one of their members. -/
def Criteria.HasGap (criteria : Criteria) (fault : CriteriaFault) : Prop :=
  ∃ member ∈ criteria, member.HasGap fault

end RecordStore
