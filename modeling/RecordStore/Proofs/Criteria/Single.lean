import RecordStore.Criteria.Order
import RecordStore.Proofs.Criteria.Mention

/-!
# Filters of one condition

A filter with one entry is read as one condition on the field that its key
names.  The condition nests no deeper than any database allows, so that only
the number of its operands can make the filter too large.
-/

namespace RecordStore

/-- The filter that applies one operator to one field. -/
def Filter.single (name key : String) (operand : Json) : Filter :=
  .object [(name, .object [(key, operand)])]

namespace Criteria

variable {name : String} {field : Field} {operator : Operator}

/-- An object with one entry, whose key names a field, is one condition on it. -/
theorem ofFilter_entry
    (fieldRead : Field.read name = .ok field)
    {value : Json}
    (isOperator : readOperator name value = .ok operator) :
    ofFilter (.object [(name, value)]) = .ok [.condition field operator] := by
  have notGroup : Junction.ofKey? name = none :=
    ((Field.exists_read_iff name).mp ⟨field, fieldRead⟩).ofKey?_eq_none
  rw [ofFilter, ofMembers, ofMember_of_ofKey?_eq_none notGroup, readCondition, fieldRead,
    Outcome.ok_bind, isOperator]
  rfl

theorem ofFilter_single
    (fieldRead : Field.read name = .ok field)
    {key : String}
    {operand : Json}
    (described : Operator.ofDescriptor key operand = .ok operator) :
    ofFilter (.single name key operand) = .ok [.condition field operator] := by
  apply ofFilter_entry fieldRead
  rw [readOperator, readDescriptor, described]
  rfl

/-- The restriction by one condition is the condition. -/
theorem restriction_single
    {condition : Sql.Condition Value}
    (made : operator.toCondition field.sqlName = .ok condition) :
    restriction [.condition field operator] = .ok ⟨some condition⟩ := by
  have conditions : conditions [.condition field operator] = .ok [condition] := by
    rw [Criteria.conditions, criterionCondition]
    show (do
        let first ← operator.toCondition field.sqlName
        let others ← Criteria.conditions []
        .ok (first :: others)) = _
    rw [made]
    rfl
  rw [restriction, conditions]
  rfl

theorem height_le_of_toCondition
    {column : String}
    {condition : Sql.Condition Value}
    (made : operator.toCondition column = .ok condition) :
    condition.height ≤ 4 := by
  cases operator with
  | compare comparison operand =>
      cases made
      exact Nat.le_of_ble_eq_true rfl
  | member negated members =>
      cases members with
      | nil => cases made
      | cons first rest =>
          cases made
          rw [Sql.Condition.height]
          split <;> split <;> decide
  | isNull flag =>
      cases made
      exact Nat.le_of_ble_eq_true rfl

/-- One condition with few operands makes a small filter. -/
theorem isSmall_of_single
    {filter : Filter}
    (accepted : ofFilter filter = .ok [.condition field operator])
    (few : operator.operands.length ≤ Database.maximalParameters) :
    filter.IsSmall := by
  rcases (wellFormed_of_ofFilter accepted).1 with ⟨fieldWellFormed, wellFormed⟩
  rcases Operator.exists_toCondition (Field.isColumn_sqlName fieldWellFormed) wellFormed with
    ⟨condition, made, legible, _⟩
  have restricts : filter.restriction = .ok ⟨some condition⟩ := by
    rw [Filter.restriction, accepted, Outcome.ok_bind, restriction_single made]
  intro restriction restrictsToo
  cases restricts.symm.trans restrictsToo
  constructor
  · intro inner isInner
    cases isInner
    exact (height_le_of_toCondition made).trans (by decide)
  · have isText : condition.text.toList = condition.write := String.toList_ofList
    rw [Restriction.placeholderCount, Restriction.fragment, isText,
      Sql.Condition.count_write legible, (of_toCondition made).2]
    exact few

end Criteria

end RecordStore
