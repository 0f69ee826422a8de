import RecordStore.Criteria.Writer
import RecordStore.Proofs.Json
import RecordStore.Proofs.Restriction

/-!
# Criteria come back from the filter that they are written as

An operator is read back from its descriptor, because the operators in
well-formed criteria are normalized already.  A conjunction without
repetitions has a key of its own for each member, so that the object keeps
all entries in their order, and each of them is read back by itself.

Main statement: `Criteria.ofFilter_toFilter`.
-/

namespace RecordStore

namespace Operator

def selection : Operator → Selection
  | compare comparison _ => .comparison comparison
  | member negated _ => .membership negated
  | isNull _ => .nullity

theorem select?_key (operator : Operator) :
    select? operator.key = some operator.selection := by
  apply (select?_eq_some_iff _ _).mpr
  cases operator <;> exact List.mem_cons_self

theorem readDescriptor_operandJson
    {operator : Operator}
    (isFinite : operator.IsFinite) :
    readDescriptor operator.key operator.operandJson = .ok operator := by
  have selected := operator.select?_key
  cases operator with
  | compare comparison operand =>
      exact readDescriptor_comparison selected (Value.ofJson?_toJson isFinite)
  | member negated members =>
      apply readDescriptor_membership selected
      rw [List.map_map]
      exact List.map_congr_left fun value isMember => Value.ofJson?_toJson (isFinite value isMember)
  | isNull flag => exact readDescriptor_nullity selected flag

/-- An operator in well-formed criteria is what its descriptor means. -/
theorem ofDescriptor_operandJson
    {operator : Operator}
    (wellFormed : operator.WellFormed)
    (isFinite : operator.IsFinite) :
    ofDescriptor operator.key operator.operandJson = .ok operator :=
  ofDescriptor_of_readDescriptor (readDescriptor_operandJson isFinite) wellFormed

end Operator

namespace Field

theorem isFieldKey_name
    {field : Field}
    (wellFormed : field.WellFormed) :
    Filter.IsFieldKey field.name := by
  cases field with
  | identity => exact .inl rfl
  | column name => exact .inr wellFormed

theorem read_name
    {field : Field}
    (wellFormed : field.WellFormed)
    (noIdentityColumn : field ≠ .column identityName) :
    read field.name = .ok field := by
  cases field with
  | identity => rfl
  | column name =>
      have notIdentity : name ≠ identityName := fun same => noIdentityColumn (congrArg _ same)
      have isIdentifier : Identifier.check name = .ok () := wellFormed
      rw [read, Field.name, parse, if_neg notIdentity, isIdentifier, Outcome.ok_bind]
      rfl

end Field

namespace Criteria

theorem entries_eq_map (criteria : Criteria) : entries criteria = criteria.map entry := by
  induction criteria with
  | nil => rfl
  | cons criterion rest induction => rw [entries, induction, List.map_cons]

theorem branchObjects_eq_map (branches : List Criteria) :
    branchObjects branches =
      (branches.map fun branch => Json.setMembers (entries branch)).map .object := by
  induction branches with
  | nil => rfl
  | cons branch rest induction => rw [branchObjects, induction, List.map_cons, List.map_cons]

/-- Criterions that do not repeat each other have entries under different keys. -/
theorem entry_ne_of_not_repeats
    {first second : Criterion}
    (firstWellFormed : WellFormedCriterion first)
    (secondWellFormed : WellFormedCriterion second)
    (apart : ¬ first.Repeats second) :
    (entry first).1 ≠ (entry second).1 := by
  have fieldKey_ne_key
      {field : Field}
      (wellFormed : field.WellFormed)
      (junction : Junction) :
      field.name ≠ junction.key := by
    intro same
    have noGroup := (Field.isFieldKey_name wellFormed).ofKey?_eq_none
    rw [same, Junction.ofKey?_key] at noGroup
    contradiction
  cases first with
  | condition field operator =>
      cases second with
      | condition other operand => exact apart
      | group junction branches => exact fieldKey_ne_key firstWellFormed.1 junction
  | group junction branches =>
      cases second with
      | condition field operator => exact (fieldKey_ne_key secondWellFormed.1 junction).symm
      | group other others =>
          intro same
          have sameKey : junction.key = other.key := same
          apply apart
          apply Option.some.inj
          rw [← Junction.ofKey?_key, ← Junction.ofKey?_key, sameKey]

theorem nodup_entries
    {criteria : Criteria}
    (wellFormed : WellFormed criteria)
    (noRepeats : criteria.Pairwise fun first second => ¬ first.Repeats second) :
    ((entries criteria).map Prod.fst).Nodup := by
  have members := (wellFormed_iff criteria).mp wellFormed
  rw [entries_eq_map, List.map_map]
  apply List.pairwise_map.mpr
  refine noRepeats.imp_of_mem ?_
  intro first second isFirst isSecond apart
  exact entry_ne_of_not_repeats (members first isFirst) (members second isSecond) apart

theorem ofMember_condition
    {field : Field}
    {operator : Operator}
    (wellFormed : WellFormedCriterion (.condition field operator))
    (noIdentityColumn : field ≠ .column Field.identityName)
    (isFinite : operator.IsFinite) :
    ofMember field.name (.object [(operator.key, operator.operandJson)]) =
      .ok (.condition field operator) := by
  rw [ofMember_of_ofKey?_eq_none (Field.isFieldKey_name wellFormed.1).ofKey?_eq_none,
    readCondition, Field.read_name wellFormed.1 noIdentityColumn, Outcome.ok_bind, readOperator,
    readDescriptor, Operator.ofDescriptor_operandJson wellFormed.2 isFinite, Outcome.mapError_ok,
    Outcome.ok_bind]

/-- A group is read back if each of its branches is. -/
theorem ofMember_group
    {junction : Junction}
    {branches : List Criteria}
    (wellFormed : WellFormedCriterion (.group junction branches))
    (comeBack :
      ∀ branch ∈ branches, ofMembers (Json.setMembers (entries branch)) = .ok branch) :
    ofMember junction.key (.array (branchObjects branches)) = .ok (.group junction branches) := by
  rcases wellFormed with ⟨hasBranch, areProper⟩
  refine
    (ofMember_key_eq_ok_iff junction _ _).mpr
      ⟨branchObjects branches, branches, rfl, ?_, ?_⟩
  · refine (ofBranches_eq_ok_iff junction _ branches).mpr ⟨_, branchObjects_eq_map branches, ?_⟩
    rw [List.forall₂_map_left_iff, List.forall₂_same]
    exact comeBack
  · have nonempty := (wellFormedBranches_iff branches).mp areProper
    exact
      (validate_group_eq_ok_iff junction branches _).mpr
        ⟨hasBranch, fun branch isBranch => (nonempty branch isBranch).1, rfl⟩

theorem ofMembers_setMembers_entries
    {criteria : Criteria}
    (writable : IsWritable criteria)
    (wellFormed : WellFormed criteria) :
    ofMembers (Json.setMembers (entries criteria)) = .ok criteria := by
  induction writable with
  | @intro criteria noRepeats noIdentityColumn areFinite branchesWritable comeBack =>
      have members := (wellFormed_iff criteria).mp wellFormed
      rw [Json.setMembers_of_nodup (nodup_entries wellFormed noRepeats), ofMembers_eq_ok_iff,
        entries_eq_map, List.forall₂_map_left_iff, List.forall₂_same]
      intro member isMember
      cases member with
      | condition field operator =>
          refine ofMember_condition (members _ isMember) ?_ (areFinite field operator isMember)
          rintro rfl
          exact noIdentityColumn operator isMember
      | group junction branches =>
          refine ofMember_group (members _ isMember) ?_
          intro branch isBranch
          have areProper := (wellFormedBranches_iff branches).mp (members _ isMember).2
          exact comeBack _ isMember branch isBranch (areProper branch isBranch).2

/--
The criteria that a caller can have come back from the filter that they are
written as, if no conjunction in them repeats a field or a junction.
-/
theorem ofFilter_toFilter
    {criteria : Criteria}
    (built : Built criteria)
    (writable : IsWritable criteria) :
    ofFilter criteria.toFilter = .ok criteria :=
  ofMembers_setMembers_entries writable built.wellFormed

/-- Identities beyond some number, with a score that is neither zero nor a word, or with none. -/
def ranked : Criteria :=
  [.condition .identity (.compare .greater (.integer (-3))),
    .group .or
      [[.condition (.column "score") (.member true [.real (.zero true), .text "none"])],
        [.condition (.column "score") (.isNull true)]]]

theorem built_ranked : Built ranked := by
  have score : Identifier.check "score" = .ok () := by decide +kernel
  have condition
      {operator : Operator}
      (normalized : operator.normalize = .ok operator) :
      Built [.condition (.column "score") operator] := by
    have accepted :
        ofList [.condition (.column "score") operator] =
          .ok [.condition (.column "score") operator] := by
      simp [ofList, Criterion.validate, Field.validate, score, normalized, pure, Except.pure]
    refine .ofList ?_ accepted
    simp [Criterion.branches]
  have accepted : ofList ranked = .ok ranked := rfl
  refine .ofList ?_ accepted
  simp only [ranked, Criterion.branches, List.mem_cons, List.not_mem_nil, or_false]
  rintro member (rfl | rfl) branch isBranch
  · contradiction
  · simp only [List.mem_cons, List.not_mem_nil, or_false] at isBranch
    rcases isBranch with rfl | rfl
    · exact condition rfl
    · exact condition rfl

/-- They are read from the text of an object with a group of two branches. -/
theorem ranked_comes_back :
    Built ranked ∧ IsWritable ranked ∧
      ofFilter
          (.object
            [("_id", .object [("greater-than", .integer (-3))]),
              ("$or",
                .array
                  [.object
                      [("score",
                        .object
                          [("not-in-set", .array [.real (.zero true), .text "none"])])],
                    .object [("score", .object [("is-null", .boolean true)])]])]) =
        .ok ranked := by
  have condition
      {operator : Operator}
      (isFinite : operator.IsFinite) :
      IsWritable [.condition (.column "score") operator] := by
    refine .intro (List.pairwise_singleton _ _) ?_ ?_ ?_
    · simp [Field.identityName]
    · simpa using isFinite
    · simp [Criterion.branches]
  have writable : IsWritable ranked := by
    refine .intro ?_ ?_ ?_ ?_
    · simp [ranked, Criterion.Repeats]
    · simp [ranked]
    · simp [ranked, Operator.IsFinite, Value.isFinite]
    · simp only [ranked, Criterion.branches, List.mem_cons, List.not_mem_nil, or_false]
      rintro member (rfl | rfl) branch isBranch
      · contradiction
      · simp only [List.mem_cons, List.not_mem_nil, or_false] at isBranch
        rcases isBranch with rfl | rfl
        · refine condition fun value isMember => ?_
          simp only [List.mem_cons, List.not_mem_nil, or_false] at isMember
          rcases isMember with rfl | rfl <;> decide
        · exact condition trivial
  exact ⟨built_ranked, writable, ofFilter_toFilter built_ranked writable⟩

end Criteria

end RecordStore
