import RecordStore.Proofs.Criteria.Single
import RecordStore.Proofs.Criteria.Writer
import RecordStore.Proofs.Database.Cell
import RecordStore.Proofs.Storage.Algebra
import RecordStore.Proofs.Storage.Put

/-!
# The operators on one field divide the records

Where a row has a value, it stands in one order to an operand, so that less,
equal and greater divide the rows that have one, and every other comparison is
two of the three together.  A set of operands and its complement divide them
too, and what is in the set is what equals one of its members.

Main statement: `Session.operators_divide_records`.
-/

namespace RecordStore

open Sql (Condition Truth)

/-! ## Outcomes of comparisons -/

namespace Comparison

theorem outcome_eq_holds_iff (comparison : Comparison) (left right : Cell) :
    comparison.outcome left right = .holds ↔
      ∃ order, left.compare? right = some order ∧ comparison.admits order = true := by
  rw [outcome]
  cases left.compare? right with
  | none => simp
  | some order => simp [Truth.ofBool_eq_holds_iff]

theorem outcome_notEqual (left right : Cell) :
    notEqual.outcome left right = (equal.outcome left right).not := by
  rw [outcome, outcome]
  cases left.compare? right with
  | none => rfl
  | some order => cases order <;> rfl

end Comparison

/-- A field can be compared with the value: it is neither null nor a NaN. -/
def Value.IsComparable (value : Value) : Prop :=
  value.isNull = false ∧ value.isNaN = false

/-- A field can be compared with the value that the scalar stands for. -/
def Json.IsComparable (json : Json) : Prop :=
  ∃ value, Value.ofJson? json = some value ∧ value.IsComparable

theorem Value.IsComparable.ne_null {value : Value} (isComparable : value.IsComparable) :
    value ≠ .null := by
  rintro rfl
  exact absurd isComparable.1 (by decide)

theorem Json.exists_values
    {items : List Json}
    (areComparable : ∀ item ∈ items, item.IsComparable) :
    ∃ values : List Value, items.map Value.ofJson? = values.map some ∧
      ∀ value ∈ values, value.IsComparable := by
  have areScalars (item : Json) (isItem : item ∈ items) : item.IsScalar := by
    rcases areComparable item isItem with ⟨_, isValue, _⟩
    exact Value.isScalar_of_ofJson? isValue
  rcases Operator.exists_values areScalars with ⟨values, areValues⟩
  refine ⟨values, areValues, fun value isMember => ?_⟩
  have isImage : some value ∈ items.map Value.ofJson? := by
    rw [areValues]
    exact List.mem_map_of_mem isMember
  rcases List.mem_map.mp isImage with ⟨item, isItem, isValue⟩
  rcases areComparable item isItem with ⟨other, isOther, isComparable⟩
  cases isValue.symm.trans isOther
  exact isComparable

namespace Operator

theorem ofDescriptor_comparison
    (comparison : Comparison)
    {operand : Json}
    {value : Value}
    (isValue : Value.ofJson? operand = some value)
    (isComparable : value.IsComparable)
    (key : String)
    (isKey :
      key ∈ Filter.keys (Selection.comparison comparison).key
        (Selection.comparison comparison).shortKey) :
    ofDescriptor key operand = .ok (compare comparison value) := by
  have selected := (select?_eq_some_iff key (.comparison comparison)).mpr isKey
  exact
    ofDescriptor_of_readDescriptor (readDescriptor_comparison selected isValue)
      isComparable.ne_null

theorem ofDescriptor_membership
    (negated : Bool)
    {items : List Json}
    {values : List Value}
    (areValues : items.map Value.ofJson? = values.map some)
    (nonempty : values ≠ [])
    (areComparable : ∀ value ∈ values, value.IsComparable)
    (key : String)
    (isKey :
      key ∈ Filter.keys (Selection.membership negated).key
        (Selection.membership negated).shortKey) :
    ofDescriptor key (.array items) = .ok (member negated values) := by
  have selected := (select?_eq_some_iff key (.membership negated)).mpr isKey
  exact
    ofDescriptor_of_readDescriptor (readDescriptor_membership selected areValues)
      ⟨nonempty, fun value isMember => (areComparable value isMember).ne_null⟩

theorem ofDescriptor_nullity
    (flag : Bool)
    (key : String)
    (isKey : key ∈ Filter.keys Selection.nullity.key Selection.nullity.shortKey) :
    ofDescriptor key (.boolean flag) = .ok (isNull flag) := by
  have selected := (select?_eq_some_iff key .nullity).mpr isKey
  exact ofDescriptor_of_readDescriptor (readDescriptor_nullity selected flag) trivial

end Operator

/-! ## Rows in which an operator holds -/

namespace Table

/-- How many rows there are in which an operator holds of a column. -/
def tally (table : Table) (column : String) (operator : Operator) : Nat :=
  table.rows.countP fun row => operator.eval (table.interpretation row) column == .holds

section Tally

variable {table : Table} {column : String}

/-- Rows in which one of two operators holds, and never both, are those of either together. -/
theorem tally_eq_add
    {whole first second : Operator}
    (covers :
      ∀ row, whole.eval (table.interpretation row) column = .holds ↔
        first.eval (table.interpretation row) column = .holds ∨
          second.eval (table.interpretation row) column = .holds)
    (apart :
      ∀ row, first.eval (table.interpretation row) column = .holds →
        second.eval (table.interpretation row) column ≠ .holds) :
    table.tally column whole = table.tally column first + table.tally column second := by
  rw [tally, tally, tally]
  induction table.rows with
  | nil => rfl
  | cons row rest induction =>
      simp only [List.countP_cons, induction, beq_iff_eq, covers row]
      by_cases isFirst : first.eval (table.interpretation row) column = .holds
      · simp only [isFirst, apart row isFirst, true_or, if_true, if_false]
        omega
      · simp only [isFirst, false_or, if_false]
        omega

variable {source : Source} (isSource : table.source? column = some source)

include isSource

theorem eval_isNull_eq_holds_iff (row : Row) (flag : Bool) :
    (Operator.isNull flag).eval (table.interpretation row) column = .holds ↔
      (row.read source).isNull = flag := by
  rw [Operator.eval, interpretation_isNull isSource]
  cases (row.read source).isNull <;> cases flag <;> decide

/-- A row has a value in a column, or has none. -/
theorem tally_isNull :
    table.tally column (.isNull true) + table.tally column (.isNull false) =
      table.rows.length := by
  rw [tally, tally,
    List.length_eq_countP_add_countP fun row =>
      (Operator.isNull true).eval (table.interpretation row) column == .holds]
  refine congrArg _ (List.countP_congr fun row _ => ?_)
  simp only [beq_iff_eq, decide_eq_true_eq, eval_isNull_eq_holds_iff isSource,
    Bool.not_eq_true]

/-- An operator and its opposite divide the rows that have a value. -/
theorem tally_opposite
    {first second : Operator}
    (opposite :
      ∀ row, second.eval (table.interpretation row) column =
        (first.eval (table.interpretation row) column).not)
    (unknown_iff :
      ∀ row, first.eval (table.interpretation row) column = .unknown ↔
        (row.read source).isNull = true) :
    table.tally column (.isNull false) =
      table.tally column first + table.tally column second := by
  apply tally_eq_add
  · intro row
    rw [eval_isNull_eq_holds_iff isSource, Bool.eq_false_iff, Ne, ← unknown_iff, opposite]
    cases first.eval (table.interpretation row) column <;> decide
  · intro row isFirst
    rw [opposite, isFirst]
    decide

/-- A comparison that admits what either of two others does, which never agree, is both together. -/
theorem tally_compare
    (operand : Value)
    (whole first second : Comparison)
    (covers : ∀ order, whole.admits order = (first.admits order || second.admits order))
    (apart : ∀ order, first.admits order = true → second.admits order = false) :
    table.tally column (.compare whole operand) =
      table.tally column (.compare first operand) +
        table.tally column (.compare second operand) := by
  apply tally_eq_add
  · intro row
    simp only [Operator.eval, interpretation_compare isSource, Comparison.outcome_eq_holds_iff,
      covers, Bool.or_eq_true, and_or_left, exists_or]
  · intro row
    simp only [Operator.eval, interpretation_compare isSource, Ne,
      Comparison.outcome_eq_holds_iff]
    rintro ⟨order, stands, isFirst⟩ ⟨other, standsToo, isSecond⟩
    cases stands.symm.trans standsToo
    rw [apart order isFirst] at isSecond
    contradiction

theorem compare_eq_unknown_iff_isNull
    {operand : Value}
    (isComparable : operand.IsComparable)
    (row : Row)
    (comparison : Comparison) :
    (table.interpretation row).compare column comparison operand = .unknown ↔
      (row.read source).isNull = true := by
  rw [compare_eq_unknown_iff isSource, isComparable.1, isComparable.2]
  simp

/-- What equals an operand and what does not divide the rows that have a value. -/
theorem tally_equal
    {operand : Value}
    (isComparable : operand.IsComparable) :
    table.tally column (.isNull false) =
      table.tally column (.compare .equal operand) +
        table.tally column (.compare .notEqual operand) := by
  apply tally_opposite isSource
  · intro row
    simp only [Operator.eval, interpretation_compare isSource, Comparison.outcome_notEqual]
  · intro row
    exact compare_eq_unknown_iff_isNull isSource isComparable row .equal

/-- A set and its complement divide the rows that have a value. -/
theorem tally_member
    {members : List Value}
    (nonempty : members ≠ [])
    (areComparable : ∀ member ∈ members, member.IsComparable) :
    table.tally column (.isNull false) =
      table.tally column (.member false members) +
        table.tally column (.member true members) := by
  apply tally_opposite isSource
  · intro row
    rfl
  · intro row
    have unknown_iff (member : Value) (isMember : member ∈ members) :=
      compare_eq_unknown_iff_isNull isSource (areComparable member isMember) row .equal
    rw [Operator.eval, Truth.negateIf_eq_unknown_iff, Truth.any_eq_unknown_iff, List.mem_map,
      List.forall_mem_map]
    constructor
    · rintro ⟨⟨member, isMember, isUnknown⟩, -⟩
      exact (unknown_iff member isMember).mp isUnknown
    · intro isNull
      rcases List.exists_mem_of_ne_nil members nonempty with ⟨first, isFirst⟩
      refine ⟨⟨first, isFirst, (unknown_iff first isFirst).mpr isNull⟩, ?_⟩
      intro member isMember
      rw [(unknown_iff member isMember).mpr isNull]
      decide

end Tally

/-- What is in a set is what equals one of its members. -/
theorem eval_member_eq_holds_iff
    (table : Table)
    (row : Row)
    (column : String)
    (members : List Value) :
    (Operator.member false members).eval (table.interpretation row) column = .holds ↔
      ∃ member ∈ members,
        (Operator.compare .equal member).eval (table.interpretation row) column = .holds := by
  rw [Operator.eval, Truth.negateIf, if_neg Bool.false_ne_true, Truth.any_eq_holds_iff]
  simp only [List.mem_map, exists_exists_and_eq_and]
  rfl

/-- One condition finds the rows in which its operator holds. -/
theorem finds_single_iff
    {table : Table}
    (isPositive : table.IsPositive)
    {field : Field}
    {operator : Operator}
    (wellFormed : Criteria.WellFormed [.condition field operator])
    {condition : Condition Value}
    (restricts : Criteria.restriction [.condition field operator] = .ok ⟨some condition⟩)
    {row : Row}
    (isRow : row ∈ table.rows) :
    table.finds (some condition) row = true ↔
      operator.eval (table.interpretation row) field.sqlName = .holds := by
  rw [finds_iff isPositive wellFormed restricts isRow, Satisfies, Criteria.eval, Criteria.eval,
    Truth.and_holds]
  rfl

end Table

/-! ## Filters of one condition -/

namespace Session

open Storage (Operation)

variable {session : Session}

/-- An operation on the filter of one condition has an outcome, whichever key its operator has. -/
def Answers
    (session : Session)
    (operation : Filter → Operation)
    (name : String)
    (selection : Operator.Selection)
    (operand : Json)
    (outcome : Except Error Storage.Outcome) : Prop :=
  ∀ key ∈ Filter.keys selection.key selection.shortKey,
    (session.perform (operation (.single name key operand))).1 = outcome

/-- The name is that of the identity or of a column. -/
def HasField (session : Session) (name : String) : Prop :=
  name = Field.identityName ∨ name ∈ session.storage.schema.fields

section Single

variable
  {table : Table}
  (ready : session.Ready table)
  {name : String}
  {field : Field}
  (fieldRead : Field.read name = .ok field)
  {source : Source}
  (isSource : table.source? field.sqlName = some source)
  {selection : Operator.Selection}
  {operand : Json}
  {operator : Operator}
  (described :
    ∀ key ∈ Filter.keys selection.key selection.shortKey,
      Operator.ofDescriptor key operand = .ok operator)
  (few : operator.operands.length ≤ Database.maximalParameters)

include fieldRead isSource described few

variable (session) in
/-- The keys of an operator make one condition, which can be run. -/
theorem exists_condition_of_described :
    ∃ condition : Condition Value,
      Criteria.restriction [.condition field operator] = .ok ⟨some condition⟩ ∧
        Criteria.WellFormed [.condition field operator] ∧
          table.Admits session.storage.table (some condition) ∧
            ∀ key ∈ Filter.keys selection.key selection.shortKey,
              (Filter.single name key operand).restriction = .ok ⟨some condition⟩ := by
  have accepted (key : String) (isKey : key ∈ Filter.keys selection.key selection.shortKey) :=
    Criteria.ofFilter_single fieldRead (described key isKey)
  have isKey : selection.key ∈ Filter.keys selection.key selection.shortKey :=
    List.mem_cons_self
  have wellFormed := Criteria.wellFormed_of_ofFilter (accepted _ isKey)
  have isColumn := Field.isColumn_sqlName wellFormed.1.1
  rcases Operator.exists_toCondition isColumn wellFormed.1.2 with ⟨condition, made, _⟩
  have restrictsCriteria := Criteria.restriction_single made
  have restricts
      (key : String)
      (isKey : key ∈ Filter.keys selection.key selection.shortKey) :
      (Filter.single name key operand).restriction = .ok ⟨some condition⟩ := by
    rw [Filter.restriction, accepted key isKey, Outcome.ok_bind, restrictsCriteria]
  refine ⟨condition, restrictsCriteria, wellFormed, ?_, restricts⟩
  apply (Table.admits_iff session.storage.marks_table (restricts _ isKey) restrictsCriteria).mpr
  refine ⟨Criteria.isSmall_of_single (accepted _ isKey) few, ?_⟩
  intro tested isTested
  cases List.mem_singleton.mp isTested
  rw [isSource]
  rfl

include ready

theorem Ready.answers_count
    (isPositive : table.IsPositive) :
    session.Answers .count name selection operand
      (.ok (.count (table.tally field.sqlName operator))) := by
  rcases session.exists_condition_of_described fieldRead isSource described few with
    ⟨condition, restrictsCriteria, wellFormed, admits, restricts⟩
  intro key isKey
  apply (ready.count_eq_ok_iff _ _).mpr
  refine ⟨_, restricts key isKey, admits, ?_⟩
  rw [(table.matching_perm _).length_eq, ← List.countP_eq_length_filter, Table.tally]
  apply List.countP_congr
  intro row isRow
  rw [beq_iff_eq, Table.finds_single_iff isPositive wellFormed restrictsCriteria isRow]

/-- What is read for one condition are the records of the rows in which its operator holds. -/
theorem Ready.exists_answers_get
    (isPositive : table.IsPositive)
    (narrow : session.storage.schema.fields.length < Database.maximalColumns) :
    ∃ records,
      session.Answers .get name selection operand (.ok (.records records)) ∧
        (records.map Record.id).Nodup ∧
          ∀ record, record ∈ records ↔
            ∃ row ∈ table.rows, operator.eval (table.interpretation row) field.sqlName = .holds ∧
              table.recordOf row = record := by
  rcases session.exists_condition_of_described fieldRead isSource described few with
    ⟨condition, restrictsCriteria, wellFormed, admits, restricts⟩
  refine ⟨_, fun key isKey => (ready.get_eq_ok_iff _ _).mpr
    ⟨_, restricts key isKey, admits, narrow, rfl⟩, ready.storage.ids_matching _, ?_⟩
  intro record
  rw [List.mem_map]
  refine exists_congr fun row => ?_
  rw [table.mem_matching, ← and_assoc]
  refine and_congr_left fun _ => and_congr_right fun isRow => ?_
  exact Table.finds_single_iff isPositive wellFormed restrictsCriteria isRow

theorem Ready.answers_get_of_wide
    (wide : Database.maximalColumns ≤ session.storage.schema.fields.length) :
    session.Answers .get name selection operand (.error (.database .tooManyResultColumns)) := by
  rcases session.exists_condition_of_described fieldRead isSource described few with
    ⟨condition, _, _, admits, restricts⟩
  intro key isKey
  rw [ready.perform_eq]
  simp only [Storage.perform, Storage.observe,
    ready.storage.get_of_wide (restricts key isKey) admits wide]
  rfl

end Single

/-- Every row is counted where nothing is asked for. -/
theorem Ready.count_all
    {table : Table}
    (ready : session.Ready table) :
    (session.perform (.count .all)).1 = .ok (.count table.rows.length) := by
  have admits : table.Admits session.storage.table none := by
    refine ⟨nofun, ?_, nofun⟩
    rw [session.storage.marks_table]
    exact Nat.zero_le _
  have isAll : table.matching none = table.rows := List.filter_true table.rows
  exact (ready.count_eq_ok_iff .all _).mpr ⟨⟨none⟩, rfl, admits, by rw [isAll]⟩

theorem Ready.exists_source
    {table : Table}
    (ready : session.Ready table)
    (noIdentity : Field.identityName ∉ session.storage.schema.fields)
    {name : String}
    (isField : session.HasField name) :
    ∃ field source, Field.read name = .ok field ∧ table.source? field.sqlName = some source := by
  have areFields : AreFields table.columns := by
    rw [ready.storage.suits.columns]
    exact ready.storage.areFields
  rcases isField with rfl | isColumn
  · exact ⟨.identity, .identity, rfl, Table.source?_rowIdName areFields⟩
  · have wellFormed : (Field.column name).WellFormed :=
      ready.storage.areFields.areIdentifiers name isColumn
    have notIdentity : name ≠ Field.identityName := by
      rintro rfl
      exact noIdentity isColumn
    refine ⟨.column name, .column (table.columns.idxOf name), ?_, ?_⟩
    · exact Field.read_name wellFormed (by simpa using notIdentity)
    · rw [← ready.storage.suits.columns] at isColumn
      rw [Field.sqlName, Table.source?, Table.columnIndex?_eq areFields isColumn]
      exact congrArg some (Table.columnSource_of_noKey ready.storage.suits.noKey _)

/-- What is read for a set is what is read for equality with its members. -/
theorem Ready.exists_union
    {table : Table}
    (ready : session.Ready table)
    {name : String}
    {field : Field}
    (fieldRead : Field.read name = .ok field)
    {source : Source}
    (isSource : table.source? field.sqlName = some source)
    (isPositive : table.IsPositive)
    (narrow : session.storage.schema.fields.length < Database.maximalColumns)
    {members : List Json}
    {values : List Value}
    (areValues : members.map Value.ofJson? = values.map some)
    (nonempty : values ≠ [])
    (areComparable : ∀ value ∈ values, value.IsComparable)
    (few : values.length ≤ Database.maximalParameters) :
    ∃ (records : List Record) (equalTo : Json → List Record),
      session.Answers .get name (.membership false) (.array members) (.ok (.records records)) ∧
        (records.map Record.id).Nodup ∧
          (∀ member ∈ members,
            session.Answers .get name (.comparison .equal) member
              (.ok (.records (equalTo member)))) ∧
            ∀ record, record ∈ records ↔ ∃ member ∈ members, record ∈ equalTo member := by
  have isValue_iff (value : Value) :
      value ∈ values ↔ ∃ member ∈ members, Value.ofJson? member = some value := by
    rw [← List.mem_map, areValues]
    simp
  have described := Operator.ofDescriptor_membership false areValues nonempty areComparable
  rcases ready.exists_answers_get fieldRead isSource described few isPositive narrow with
    ⟨records, answers, distinct, isRecord_iff⟩
  have each (member : Json) (isMember : member ∈ members) :
      ∃ found,
        session.Answers .get name (.comparison .equal) member (.ok (.records found)) ∧
          ∀ record, record ∈ found ↔
            ∃ value, Value.ofJson? member = some value ∧
              ∃ row ∈ table.rows,
                (Operator.compare .equal value).eval (table.interpretation row) field.sqlName =
                    .holds ∧
                  table.recordOf row = record := by
    have hasValue : Value.ofJson? member ∈ values.map some :=
      areValues ▸ List.mem_map_of_mem isMember
    rcases List.mem_map.mp hasValue with ⟨value, isValue, isSame⟩
    have describedEqual :=
      Operator.ofDescriptor_comparison .equal isSame.symm (areComparable value isValue)
    rcases ready.exists_answers_get fieldRead isSource describedEqual (Nat.le_of_ble_eq_true rfl)
        isPositive narrow with
      ⟨found, answersEqual, _, isFound_iff⟩
    refine ⟨found, answersEqual, fun record => ?_⟩
    rw [isFound_iff, ← isSame]
    simp
  choose! equalTo answersEqual isEqual_iff using each
  refine ⟨records, equalTo, answers, distinct, answersEqual, ?_⟩
  intro record
  simp only [isRecord_iff, Table.eval_member_eq_holds_iff]
  constructor
  · rintro ⟨row, isRow, ⟨value, isValue, holds⟩, rfl⟩
    rcases (isValue_iff value).mp isValue with ⟨member, isMember, isSame⟩
    have isFound :=
      (isEqual_iff member isMember _).mpr ⟨value, isSame, row, isRow, holds, rfl⟩
    exact ⟨member, isMember, isFound⟩
  · rintro ⟨member, isMember, isFound⟩
    rcases (isEqual_iff member isMember record).mp isFound with
      ⟨value, isSame, row, isRow, holds, isRecord⟩
    have isValue := (isValue_iff value).mpr ⟨member, isMember, isSame⟩
    exact ⟨row, isRow, ⟨value, isValue, holds⟩, isRecord⟩

/--
The operators on one field divide the records.

Less, equal, greater and null are one each of four parts of all records; every
other comparison counts two of these parts; and the records that a set of
operands has in it and those that it has not are all that are not null.  With
room for the columns in a result, what is read for a set is what is read for
equality with each of its members; without it nothing can be read.
-/
theorem operators_divide_records
    (created : session.HasCreated)
    {name : String}
    (isField : session.HasField name)
    {operand : Json}
    (isComparable : operand.IsComparable)
    {members : List Json}
    (nonempty : members ≠ [])
    (areComparable : ∀ member ∈ members, member.IsComparable)
    (few : members.length ≤ Database.maximalParameters) :
    (∃ (total nulls among others : Nat) (compared : Comparison → Nat),
        (session.perform (.count .all)).1 = .ok (.count total) ∧
          session.Answers .count name .nullity (.boolean true) (.ok (.count nulls)) ∧
            (∀ comparison,
              session.Answers .count name (.comparison comparison) operand
                (.ok (.count (compared comparison)))) ∧
              session.Answers .count name (.membership false) (.array members)
                  (.ok (.count among)) ∧
                session.Answers .count name (.membership true) (.array members)
                    (.ok (.count others)) ∧
                  compared .less + compared .equal + compared .greater + nulls = total ∧
                    compared .notEqual = compared .less + compared .greater ∧
                      compared .greaterOrEqual = compared .greater + compared .equal ∧
                        compared .lessOrEqual = compared .less + compared .equal ∧
                          among + others + nulls = total) ∧
      (session.storage.schema.fields.length < Database.maximalColumns →
        ∃ (records : List Record) (equalTo : Json → List Record),
          session.Answers .get name (.membership false) (.array members)
              (.ok (.records records)) ∧
            (records.map Record.id).Nodup ∧
              (∀ member ∈ members,
                session.Answers .get name (.comparison .equal) member
                  (.ok (.records (equalTo member)))) ∧
                ∀ record, record ∈ records ↔ ∃ member ∈ members, record ∈ equalTo member) ∧
        (Database.maximalColumns ≤ session.storage.schema.fields.length →
          session.Answers .get name (.membership false) (.array members)
            (.error (.database .tooManyResultColumns))) := by
  rcases created.exists_ready_isPositive with ⟨table, ready, isPositive⟩
  rcases ready.exists_source created.identityName_notMem isField with
    ⟨field, source, fieldRead, isSource⟩
  rcases Json.exists_values areComparable with ⟨values, areValues, valuesComparable⟩
  rcases isComparable with ⟨value, isValue, isComparable⟩
  have sameLength : members.length = values.length := by
    simpa using congrArg List.length areValues
  have hasValue : values ≠ [] := by
    rintro rfl
    exact nonempty (List.map_eq_nil_iff.mp areValues)
  have fewValues : values.length ≤ Database.maximalParameters := sameLength ▸ few
  have describedMember (negated : Bool) :=
    Operator.ofDescriptor_membership negated areValues hasValue valuesComparable
  refine ⟨?_, ?_, ?_⟩
  · refine ⟨table.rows.length, table.tally field.sqlName (.isNull true),
      table.tally field.sqlName (.member false values),
      table.tally field.sqlName (.member true values),
      fun comparison => table.tally field.sqlName (.compare comparison value),
      ?_, ?_, ?_, ?_, ?_, ?_⟩
    · exact ready.count_all
    · exact ready.answers_count fieldRead isSource (Operator.ofDescriptor_nullity true)
        (Nat.zero_le _) isPositive
    · intro comparison
      exact ready.answers_count fieldRead isSource
        (Operator.ofDescriptor_comparison comparison isValue isComparable)
        (Nat.le_of_ble_eq_true rfl) isPositive
    · exact ready.answers_count fieldRead isSource (describedMember false) fewValues isPositive
    · exact ready.answers_count fieldRead isSource (describedMember true) fewValues isPositive
    · have nulls := table.tally_isNull isSource
      have equal := Table.tally_equal isSource isComparable
      have member := Table.tally_member isSource hasValue valuesComparable
      have notEqual :=
        Table.tally_compare isSource value .notEqual .less .greater (by decide) (by decide)
      have greaterOrEqual :=
        Table.tally_compare isSource value .greaterOrEqual .greater .equal (by decide) (by decide)
      have lessOrEqual :=
        Table.tally_compare isSource value .lessOrEqual .less .equal (by decide) (by decide)
      refine ⟨?_, notEqual, greaterOrEqual, lessOrEqual, ?_⟩
      · dsimp only
        omega
      · omega
  · intro narrow
    exact
      ready.exists_union fieldRead isSource isPositive narrow areValues hasValue valuesComparable
        fewValues
  · exact ready.answers_get_of_wide fieldRead isSource (describedMember false) fewValues

/-- Of a score, a missing one and a text, the set of both values reads two. -/
theorem three_scores_are_divided :
    let score : Record := ⟨none, .ofList [("score", .integer 7)]⟩
    let missing : Record := ⟨none, .ofList [("name", .text "Bob")]⟩
    let word : Record := ⟨none, .ofList [("score", .text "many")]⟩
    let session := ((inMemory scores .everyPut).perform (.putMany [score, missing, word])).2
    (∃ (nulls : Nat) (compared : Comparison → Nat),
        session.Answers .count "score" .nullity (.boolean true) (.ok (.count nulls)) ∧
          (∀ comparison,
            session.Answers .count "score" (.comparison comparison) (.integer 7)
              (.ok (.count (compared comparison)))) ∧
            compared .less + compared .equal + compared .greater + nulls = 3) ∧
      ∃ equalTo : Json → List Record,
        session.Answers .get "score" (.comparison .equal) (.integer 7)
            (.ok (.records (equalTo (.integer 7)))) ∧
          session.Answers .get "score" (.comparison .equal) (.text "many")
              (.ok (.records (equalTo (.text "many")))) ∧
            ∀ record,
              record ∈
                  [(⟨some 1, .ofList [("name", .null), ("score", .integer 7)]⟩ : Record),
                    ⟨some 3, .ofList [("name", .null), ("score", .text "many")]⟩] ↔
                record ∈ equalTo (.integer 7) ∨ record ∈ equalTo (.text "many") := by
  intro score missing word session
  have created : session.HasCreated := hasCreated_scores.perform (.putMany [score, missing, word])
  have sameSchema : session.storage.schema = scores := schema_perform _ _
  have isField : session.HasField "score" := .inr (sameSchema ▸ by decide)
  have isSeven : (Json.integer 7).IsComparable := ⟨.integer 7, by decide, rfl, rfl⟩
  have isWord : (Json.text "many").IsComparable := ⟨.text "many", rfl, rfl, rfl⟩
  rcases
      operators_divide_records created isField isSeven (List.cons_ne_nil _ _)
        (List.forall_mem_cons.mpr ⟨isSeven, List.forall_mem_singleton.mpr isWord⟩)
        (by decide) with
    ⟨⟨total, nulls, _, _, compared, counted, countedNulls, countedCompared, _, _, divided, _⟩,
      reads, _⟩
  rcases reads (sameSchema ▸ by decide) with ⟨records, equalTo, answers, _, answersEqual, union⟩
  have outcomes :
      (session.perform (.count .all)).1.toOption = some (.count 3) ∧
        (session.perform
              (.get (.single "score" "in-set" (.array [.integer 7, .text "many"])))).1.toOption =
          some
            (.records
              [⟨some 1, .ofList [("name", .null), ("score", .integer 7)]⟩,
                ⟨some 3, .ofList [("name", .null), ("score", .text "many")]⟩]) := by
    decide +kernel
  have isTotal : total = 3 := by
    rw [Outcome.eq_ok_of_toOption outcomes.1] at counted
    cases counted
    rfl
  have got := Outcome.eq_ok_of_toOption outcomes.2
  have isRecords := (answers "in-set" List.mem_cons_self).symm.trans got
  cases isRecords
  refine ⟨⟨nulls, compared, countedNulls, countedCompared, isTotal ▸ divided⟩, equalTo, ?_, ?_, ?_⟩
  · exact answersEqual _ List.mem_cons_self
  · exact answersEqual _ (List.mem_cons_of_mem _ List.mem_cons_self)
  · intro record
    rw [union]
    simp

/-- In the widest table a value is stored, and no set that it is in reads it. -/
theorem widest_set_is_not_read :
    let record : Record := ⟨none, .ofList [("_a00", .integer 1)]⟩
    let session := ((inMemory Wide.schema .manual).perform (.put record)).2
    session.HasCreated ∧ session.HasField "_a00" ∧ (Json.integer 1).IsComparable ∧
      (∃ id, ((inMemory Wide.schema .manual).perform (.put record)).1 = .ok (.id id)) ∧
        (session.perform (.get (.single "_a00" "in-set" (.array [.integer 1])))).1 =
          .error (.database .tooManyResultColumns) := by
  intro record session
  have created : (inMemory Wide.schema .manual).HasCreated := ⟨_, [], Wide.creates_wide, rfl⟩
  have isColumn : "_a00" ∈ Wide.schema.fields := by
    refine List.mem_map.mpr ⟨('a', '0', '0'), ?_, rfl⟩
    decide
  have sameSchema : session.storage.schema = Wide.schema := schema_perform _ _
  have isField : session.HasField "_a00" := .inr (sameSchema ▸ isColumn)
  have isOne : Value.ofJson? (.integer 1) = some (.integer 1) := by decide
  have checked : (inMemory Wide.schema .manual).storage.schema.check record = .ok () := by
    apply (Storage.check_eq_ok_iff _ record).mpr
    intro other member
    cases List.mem_singleton.mp member
    exact isColumn
  have room : (inMemory Wide.schema .manual).HasRoom := fun _ _ isRow => by cases isRow
  rcases created.exists_ready with ⟨_, readyBefore⟩
  rcases readyBefore.put_new checked rfl room with ⟨id, _, isPut, _⟩
  rcases (created.perform (.put record)).exists_ready with ⟨table, ready⟩
  rcases ready.exists_source (created.perform (.put record)).identityName_notMem isField with
    ⟨field, source, fieldRead, isSource⟩
  have areValues : [Json.integer 1].map Value.ofJson? = [Value.integer 1].map some := by
    rw [List.map_singleton, isOne]
    rfl
  have described :=
    Operator.ofDescriptor_membership false areValues (by decide)
      (List.forall_mem_singleton.mpr ⟨rfl, rfl⟩)
  have wide : Database.maximalColumns ≤ session.storage.schema.fields.length := by
    rw [sameSchema]
    exact Wide.length_names.ge
  refine ⟨created.perform _, isField, ⟨_, isOne, rfl, rfl⟩, ⟨id, isPut⟩, ?_⟩
  exact
    ready.answers_get_of_wide fieldRead isSource described (by decide) wide "in-set"
      List.mem_cons_self

end Session

end RecordStore
