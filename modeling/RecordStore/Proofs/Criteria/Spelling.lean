import RecordStore.Criteria.Spelling
import RecordStore.Proofs.Criteria.Order

/-!
# The spelling of a filter carries no meaning

The two names of an operator select the same operator, and a scalar is read
as the descriptor of equality with it.  What is read of an object depends on
each entry by itself, so that respelling one entry changes nothing, and the
same goes for the branches of a group.

Main statement: `Criteria.ofFilter_of_speltAlike`.
-/

namespace RecordStore

namespace Pointwise

open List (Forall₂)

/-- A member may be exchanged for one that is related to the same. -/
theorem exchange_iff
    {α β : Type}
    {related : α → β → Prop}
    {left other : α}
    (same : ∀ right, related left right ↔ related other right)
    (before after : List α)
    (second : List β) :
    Forall₂ related (before ++ left :: after) second ↔
      Forall₂ related (before ++ other :: after) second := by
  induction before generalizing second with
  | nil => simp only [List.nil_append, List.forall₂_cons_left_iff, same]
  | cons head rest induction =>
      simp only [List.cons_append, List.forall₂_cons_left_iff, induction]

end Pointwise

namespace Operator

/-! ## Names of operators -/

theorem select?_eq_of_names
    {long short : String}
    (areNames : (long, short) ∈ names) :
    select? long = select? short := by
  have each : ∀ pair ∈ names, select? pair.1 = select? pair.2 := by decide
  exact each (long, short) areNames

/-- The name by which an operator is selected shows in faults only. -/
theorem readDescriptor_of_select?
    {key other : String}
    (same : select? key = select? other)
    {operand : Json}
    {operator : Operator}
    (read : readDescriptor key operand = .ok operator) :
    readDescriptor other operand = .ok operator := by
  unfold readDescriptor at read
  split at read
  · contradiction
  · next comparison selected =>
      split at read
      · next value isValue =>
          cases read
          exact readDescriptor_comparison (same.symm.trans selected) isValue
      · contradiction
  · next negated selected =>
      split at read
      · next items =>
          rcases Outcome.bind_eq_ok_iff.mp read with ⟨members, membersRead, isOperator⟩
          cases isOperator
          exact
            readDescriptor_membership (same.symm.trans selected)
              ((readMembers_eq_ok_iff key items members).mp membersRead)
      · contradiction
  · next selected =>
      split at read
      · next flag =>
          cases read
          exact readDescriptor_nullity (same.symm.trans selected) flag
      · contradiction

theorem ofDescriptor_eq_ok_iff_of_select?
    {key other : String}
    (same : select? key = select? other)
    (operand : Json)
    (operator : Operator) :
    ofDescriptor key operand = .ok operator ↔ ofDescriptor other operand = .ok operator := by
  have spelt (spelled : Operator) :
      readDescriptor key operand = .ok spelled ↔ readDescriptor other operand = .ok spelled :=
    ⟨readDescriptor_of_select? same, readDescriptor_of_select? same.symm⟩
  simp only [ofDescriptor, Outcome.bind_eq_ok_iff, spelt]

end Operator

namespace Criteria

/-! ## Respelt entries -/

theorem readDescriptor_eq_ok_iff
    (field : String)
    (descriptor : List (String × Json))
    (operator : Operator) :
    readDescriptor field descriptor = .ok operator ↔
      ∃ key operand, descriptor = [(key, operand)] ∧
        Operator.ofDescriptor key operand = .ok operator := by
  match descriptor with
  | [] => simp [readDescriptor]
  | [(key, operand)] => simp [readDescriptor, Outcome.mapError_eq_ok_iff]
  | _ :: _ :: _ => simp [readDescriptor]

/-- The values are read as the same operator of a field, or neither is read. -/
def ReadAsSame (field : String) (value other : Json) : Prop :=
  ∀ operator, readOperator field value = .ok operator ↔ readOperator field other = .ok operator

theorem readAsSame_of_names
    (field : String)
    (earlier later : List (String × Json))
    {long short : String}
    (areNames : (long, short) ∈ Operator.names)
    (operand : Json) :
    ReadAsSame field
      (.object (earlier ++ (long, operand) :: later))
      (.object (earlier ++ (short, operand) :: later)) := by
  intro operator
  rw [readOperator, readOperator, readDescriptor_eq_ok_iff, readDescriptor_eq_ok_iff]
  have same :=
    Operator.ofDescriptor_eq_ok_iff_of_select? (Operator.select?_eq_of_names areNames) operand
      operator
  -- A descriptor with another entry is refused under either name.
  cases earlier with
  | nil =>
      cases later with
      | nil => simpa using same
      | cons next rest => simp
  | cons first rest => simp

theorem readAsSame_of_isScalar
    (field : String)
    {scalar : Json}
    (isScalar : scalar.IsScalar) :
    ReadAsSame field scalar (.object [(Comparison.equal.key, scalar)]) := by
  intro operator
  rw [readOperator_of_isScalar field isScalar]
  rfl

/-- Values of an entry that are no arrays are read alike if they are read as the same operator. -/
theorem ofMember_eq_ok_iff_of_readAsSame
    {field : String}
    {value other : Json}
    (same : ReadAsSame field value other)
    (noArray : ∀ elements, value ≠ .array elements ∧ other ≠ .array elements)
    (criterion : Criterion) :
    ofMember field value = .ok criterion ↔ ofMember field other = .ok criterion := by
  cases found : Junction.ofKey? field with
  | none =>
      simp only [ofMember_of_ofKey?_eq_none found, readCondition, Outcome.bind_eq_ok_iff,
        same _]
  | some junction =>
      cases (Junction.ofKey?_eq_some_iff field junction).mp found
      rw [ofMember_key_eq_ok_iff, ofMember_key_eq_ok_iff]
      constructor
      · rintro ⟨items, branches, spelled, -⟩
        exact absurd spelled (noArray items).1
      · rintro ⟨items, branches, spelled, -⟩
        exact absurd spelled (noArray items).2

/-- A group is read alike if one of its branches is. -/
theorem ofMember_eq_ok_iff_of_branch
    {members others : List (String × Json)}
    (same : ∀ criteria, ofMembers members = .ok criteria ↔ ofMembers others = .ok criteria)
    (junction : Junction)
    (earlier later : List Json)
    (criterion : Criterion) :
    ofMember junction.key (.array (earlier ++ .object members :: later)) = .ok criterion ↔
      ofMember junction.key (.array (earlier ++ .object others :: later)) = .ok criterion := by
  have readSame (criteria : Criteria) :
      IsReadAs (.object members) criteria ↔ IsReadAs (.object others) criteria := by
    simp [IsReadAs, same]
  simp only [ofMember, Junction.ofKey?_key, Outcome.bind_eq_ok_iff,
    ofBranches_eq_ok_iff_isReadAs, Pointwise.exchange_iff readSame earlier later]

theorem ofMembers_eq_ok_iff_of_entry
    {entry other : String × Json}
    (same :
      ∀ criterion,
        ofMember entry.1 entry.2 = .ok criterion ↔ ofMember other.1 other.2 = .ok criterion)
    (before after : List (String × Json))
    (criteria : Criteria) :
    ofMembers (before ++ entry :: after) = .ok criteria ↔
      ofMembers (before ++ other :: after) = .ok criteria := by
  rw [ofMembers_eq_ok_iff, ofMembers_eq_ok_iff]
  exact Pointwise.exchange_iff same before after criteria

/-! ## Respelt filters -/

theorem ofMembers_eq_ok_iff_of_respells
    {members others : List (String × Json)}
    (respells : Filter.Respells members others)
    (criteria : Criteria) :
    ofMembers members = .ok criteria ↔ ofMembers others = .ok criteria := by
  induction respells generalizing criteria with
  | name before after field earlier later areNames operand =>
      apply ofMembers_eq_ok_iff_of_entry
      exact
        ofMember_eq_ok_iff_of_readAsSame (readAsSame_of_names field earlier later areNames operand)
          (by simp)
  | scalar before after field isScalar =>
      apply ofMembers_eq_ok_iff_of_entry
      refine ofMember_eq_ok_iff_of_readAsSame (readAsSame_of_isScalar field isScalar) ?_
      intro elements
      constructor
      · rintro rfl
        exact isScalar
      · simp
  | branch before after junction earlier later inner same =>
      apply ofMembers_eq_ok_iff_of_entry
      exact ofMember_eq_ok_iff_of_branch same junction earlier later

theorem ofFilter_eq_ok_iff_of_speltAlike
    {filter other : Filter}
    (speltAlike : filter.SpeltAlike other)
    (criteria : Criteria) :
    ofFilter filter = .ok criteria ↔ ofFilter other = .ok criteria := by
  cases speltAlike with
  | same => exact Iff.rfl
  | object respelt =>
      rw [ofFilter, ofFilter]
      induction respelt with
      | rel members others respells => exact ofMembers_eq_ok_iff_of_respells respells criteria
      | refl members => exact Iff.rfl
      | symm members others respelt same => exact same.symm
      | trans members middle others earlier later earlierSame laterSame =>
          exact earlierSame.trans laterSame

/--
Filters that are spelt alike become the same criteria, and so the same
restriction, or none of them is accepted.
-/
theorem ofFilter_of_speltAlike
    {filter other : Filter}
    (speltAlike : filter.SpeltAlike other) :
    (∃ criteria restriction,
        ofFilter filter = .ok criteria ∧ ofFilter other = .ok criteria ∧
          filter.restriction = .ok restriction ∧ other.restriction = .ok restriction) ∨
      ∃ fault otherFault, ofFilter filter = .error fault ∧ ofFilter other = .error otherFault := by
  have same := ofFilter_eq_ok_iff_of_speltAlike speltAlike
  cases read : ofFilter filter with
  | ok criteria =>
      have otherRead := (same criteria).mp read
      rcases exists_restriction (wellFormed_of_ofFilter read) with ⟨restriction, restricts, -⟩
      refine .inl ⟨criteria, restriction, rfl, otherRead, ?_, ?_⟩
      · rw [Filter.restriction, read, Outcome.ok_bind, restricts]
      · rw [Filter.restriction, otherRead, Outcome.ok_bind, restricts]
  | error fault =>
      cases otherRead : ofFilter other with
      | ok criteria =>
          rw [(same criteria).mpr otherRead] at read
          contradiction
      | error otherFault => exact .inr ⟨fault, otherFault, rfl, rfl⟩

/-- A filter with a bare value and a long name in a group, and a short name beside it. -/
def looseFilter : Filter :=
  .object
    [("$or",
      .array
        [.object [("label", .text "Ada")],
          .object [("age", .object [("greater-than", .integer 2)])]]),
      ("city", .object [("$null", .boolean false)])]

/-- The same filter with a descriptor for the bare value and the other name everywhere. -/
def strictFilter : Filter :=
  .object
    [("$or",
      .array
        [.object [("label", .object [("$eq", .text "Ada")])],
          .object [("age", .object [("$gt", .integer 2)])]]),
      ("city", .object [("is-null", .boolean false)])]

theorem loose_speltAlike_strict : looseFilter.SpeltAlike strictFilter := by
  have isEqual : ("equals", "$eq") ∈ Operator.names := by decide
  have isGreater : ("greater-than", "$gt") ∈ Operator.names := by decide
  have isNull : ("is-null", "$null") ∈ Operator.names := by decide
  apply Filter.SpeltAlike.object
  -- The bare value becomes a descriptor, then the three names change, the last one back.
  apply Relation.EqvGen.trans
  · exact .rel _ _ (.branch [] _ .or [] _ (.scalar [] [] "label" trivial))
  apply Relation.EqvGen.trans
  · exact .rel _ _ (.branch [] _ .or [] _ (.name [] [] "label" [] [] isEqual _))
  apply Relation.EqvGen.trans
  · exact .rel _ _ (.branch [] _ .or [_] [] (.name [] [] "age" [] [] isGreater _))
  apply Relation.EqvGen.symm
  exact .rel _ _ (.name [_] [] "city" [] [] isNull _)

theorem looseFilter_accepted :
    ofFilter looseFilter =
      .ok
        [.group .or
            [[.condition (.column "label") (.compare .equal (.text "Ada"))],
              [.condition (.column "age") (.compare .greater (.integer 2))]],
          .condition (.column "city") (.isNull false)] := by
  have label : Field.parse "label" = .ok (.column "label") := by decide +kernel
  have age : Field.parse "age" = .ok (.column "age") := by decide +kernel
  have city : Field.parse "city" = .ok (.column "city") := by decide +kernel
  simp only [looseFilter, ofFilter, ofMembers, ofMember, ofBranches, readCondition, Field.read,
    label, age, city]
  rfl

/-- Both filters have the same text, whose group stands before the test for null. -/
theorem loose_and_strict_filters_agree :
    looseFilter.SpeltAlike strictFilter ∧
      ∃ criteria restriction,
        ofFilter looseFilter = .ok criteria ∧ ofFilter strictFilter = .ok criteria ∧
          looseFilter.restriction = .ok restriction ∧
          strictFilter.restriction = .ok restriction ∧
          restriction.fragment = "(label = ? OR age > ?) AND city IS NOT NULL" := by
  refine ⟨loose_speltAlike_strict, ?_⟩
  rcases ofFilter_of_speltAlike loose_speltAlike_strict with
    ⟨criteria, restriction, looseRead, strictRead, looseRestricts, strictRestricts⟩ |
    ⟨fault, -, refused, -⟩
  · refine
      ⟨criteria, restriction, looseRead, strictRead, looseRestricts, strictRestricts, ?_⟩
    rw [Filter.restriction, looseFilter_accepted, Outcome.ok_bind] at looseRestricts
    cases looseRestricts
    decide
  · rw [looseFilter_accepted] at refused
    contradiction

end Criteria

end RecordStore
