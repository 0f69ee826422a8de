import RecordStore.Proofs.Criteria.Single
import RecordStore.Proofs.Criteria.Writer
import RecordStore.Proofs.Database.Cell
import RecordStore.Proofs.Record.Reader
import RecordStore.Proofs.Storage.Algebra
import RecordStore.Proofs.Storage.Put

/-!
# What was stored is found by the same text

A scalar reaches a row as the value of a record and a condition as the operand
of a filter, both times read from JSON text.  Whatever its text, the operand
compares with the cell that was stored as equal; null is found by the test for
null, which is what equality with null becomes.

Main statement: `Session.stored_scalar_is_found`.
-/

namespace RecordStore

/-! ## Scalars as operands -/

namespace Criteria

variable {name : String}

/-- The operator that compares a field with a scalar. -/
def equality (value : Value) : Operator :=
  if value.isNull then .isNull true else .compare .equal value

theorem readOperator_scalar
    {json : Json}
    {value : Value}
    (isValue : Value.ofJson? json = some value) :
    readOperator name json = .ok (equality value) := by
  have selected : Operator.select? Comparison.equal.key = some (.comparison .equal) := by decide
  have described := Operator.readDescriptor_comparison selected isValue
  rw [readOperator_of_isScalar name (Value.isScalar_of_ofJson? isValue), Operator.ofDescriptor,
    described]
  cases value <;> rfl

theorem readOperator_inSet
    {json : Json}
    {value : Value}
    (isValue : Value.ofJson? json = some value)
    (notNull : value.isNull = false) :
    readOperator name (.object [(Operator.memberKey false, .array [json])]) =
      .ok (.member false [value]) := by
  have selected : Operator.select? (Operator.memberKey false) = some (.membership false) := by
    decide
  have described :
      Operator.readDescriptor (Operator.memberKey false) (.array [json]) =
        .ok (.member false [value]) :=
    Operator.readDescriptor_membership selected (by rw [List.map_singleton, isValue]; rfl)
  have normalized : Operator.normalize (.member false [value]) = .ok (.member false [value]) := by
    simp [Operator.normalize, notNull]
  rw [readOperator, readDescriptor, Operator.ofDescriptor, described, Outcome.ok_bind, normalized]
  rfl

end Criteria

/-! ## Rows of which one condition holds -/

/-- The cell of a column is the one that stands under its name. -/
theorem Json.getD_of_member?_zip
    {α : Type}
    {names : List String}
    {cells : List α}
    {name : String}
    {cell : α}
    (found : member? name (names.zip cells) = some cell)
    (other : α) :
    cells.getD (names.idxOf name) other = cell := by
  induction names generalizing cells with
  | nil => contradiction
  | cons first names induction =>
      cases cells with
      | nil => contradiction
      | cons head cells =>
          rw [List.zip_cons_cons, member?] at found
          split at found
          · next same =>
              cases found
              simp [same]
          · next different =>
              rw [List.idxOf_cons_ne _ different, List.getD_cons_succ]
              exact induction found

namespace Table

variable {table : Table} {row : Row} {name : String} {cell : Cell} {value : Value}

/-- What a table means by a column: the cell under its name, compared as it is. -/
theorem interpretation_column
    (areFields : AreFields table.columns)
    (isPlain : table.affinities = [])
    (noKey : table.key = none)
    (isColumn : name ∈ table.columns)
    (found : Json.member? name (table.columns.zip row.cells) = some cell) :
    (table.interpretation row).isNull name = cell.isNull ∧
      ∀ comparison operand,
        (table.interpretation row).compare name comparison operand =
          comparison.outcome cell (Cell.ofValue operand) := by
  have source : table.source? name = some (.column (table.columns.idxOf name)) := by
    rw [source?, columnIndex?_eq areFields isColumn]
    exact congrArg some (columnSource_of_noKey noKey _)
  have isCell : row.read (.column (table.columns.idxOf name)) = cell :=
    Json.getD_of_member?_zip found .null
  have plain : table.affinity (.column (table.columns.idxOf name)) = .plain := by
    rw [affinity, isPlain]
    rfl
  constructor
  · rw [interpretation_isNull source, isCell]
  · intro comparison operand
    rw [interpretation_compare source, isCell, plain, Affinity.apply]

section Stored

variable
  (areFields : AreFields table.columns)
  (isPlain : table.affinities = [])
  (noKey : table.key = none)
  (isColumn : name ∈ table.columns)
  (found : Json.member? name (table.columns.zip row.cells) = some (Cell.ofValue value))
  (isFinite : value.isFinite = true)

include areFields isPlain noKey isColumn found isFinite

/-- Equality with a scalar holds where the scalar was stored. -/
theorem holds_equality :
    (Criteria.equality value).eval (table.interpretation row) name = .holds := by
  rcases interpretation_column areFields isPlain noKey isColumn found with ⟨nullity, compares⟩
  cases isNull : value.isNull with
  | true =>
      have nullCell : (Cell.ofValue value).isNull = true := by
        rw [Cell.isNull_ofValue_of_isFinite isFinite, isNull]
      simp [Criteria.equality, isNull, Operator.eval, nullity, nullCell, Sql.Truth.negateIf,
        Sql.Truth.ofBool]
  | false =>
      have filled : (Cell.ofValue value).isNull = false := by
        rw [Cell.isNull_ofValue_of_isFinite isFinite, isNull]
      simp [Criteria.equality, isNull, Operator.eval, compares,
        Comparison.outcome_equal_self filled]

/-- Membership holds of a set with the scalar that was stored. -/
theorem holds_inSet (notNull : value.isNull = false) :
    (Operator.member false [value]).eval (table.interpretation row) name = .holds := by
  rcases interpretation_column areFields isPlain noKey isColumn found with ⟨_, compares⟩
  have filled : (Cell.ofValue value).isNull = false := by
    rw [Cell.isNull_ofValue_of_isFinite isFinite, notNull]
  simp [Operator.eval, compares, Comparison.outcome_equal_self filled, Sql.Truth.negateIf,
    Sql.Truth.any]

end Stored

end Table

/-! ## Sessions that have created their table -/

namespace Session

variable {session : Session}

/-- No statement of a storage makes a column want what it is compared with to be of a kind. -/
theorem HasCreated.exists_ready_plain (created : session.HasCreated) :
    ∃ table, session.Ready table ∧ table.IsPositive ∧ table.affinities = [] := by
  refine created.exists_ready_and _ ?_ ?_
  · intro name columns
    exact ⟨fun _ member => absurd member List.not_mem_nil, rfl⟩
  · rintro table changed becomes ⟨isPositive, isPlain⟩
    refine ⟨becomes.isPositive isPositive, ?_⟩
    cases becomes <;> exact isPlain

/-- A text is read as a filter, and the filter reads a record with an identity. -/
def Finds (session : Session) (text : String) (id : Int64) : Prop :=
  ∃ json filter records,
    Json.read text = .ok json ∧ Filter.ofJson json = .ok filter ∧
      (session.perform (.get filter)).1 = .ok (.records records) ∧
        some id ∈ records.map Record.id

/-- A filter of one condition that holds of a row reads the record of the row. -/
theorem Ready.finds_of_holds
    {table : Table}
    (ready : session.Ready table)
    (isPositive : table.IsPositive)
    (narrow : session.storage.schema.fields.length < Database.maximalColumns)
    {name : String}
    {operator : Operator}
    {operand : Json}
    {text : String}
    (isText : Json.read text = .ok (.object [(name, operand)]))
    (accepted :
      Criteria.ofFilter (.object [(name, operand)]) = .ok [.condition (.column name) operator])
    (isSmall : (Filter.object [(name, operand)]).IsSmall)
    (isField : name ∈ session.storage.schema.fields)
    {id : Int64}
    {row : Row}
    (isRow : table.row? id = some row)
    (holds : operator.eval (table.interpretation row) name = .holds) :
    session.Finds text id := by
  have isColumn : name ∈ table.columns := by
    rw [ready.storage.suits.columns]
    exact isField
  have areFields : AreFields table.columns := by
    rw [ready.storage.suits.columns]
    exact ready.storage.areFields
  have knows : table.Knows [.condition (.column name) operator] := by
    intro field member
    cases List.mem_singleton.mp member
    rw [Field.sqlName, Table.source?, Table.columnIndex?_eq areFields isColumn]
    rfl
  have satisfies : table.Satisfies [.condition (.column name) operator] row := by
    rw [Table.Satisfies, Criteria.eval, Criteria.eval, Sql.Truth.and_holds]
    exact holds
  rcases ready.reads isPositive narrow accepted isSmall knows with ⟨records, got, isRead⟩
  rcases Table.mem_of_row? isRow with ⟨member, isId⟩
  have identified : some id ∈ records.map Record.id :=
    (isRead (some id)).mpr ⟨row, member, congrArg some isId.symm, satisfies⟩
  exact ⟨_, _, records, isText, rfl, got, identified⟩

/-- The text of an operator that holds of a row finds the row. -/
theorem Ready.finds_of_operator
    {table : Table}
    (ready : session.Ready table)
    (isPositive : table.IsPositive)
    (narrow : session.storage.schema.fields.length < Database.maximalColumns)
    {name : String}
    (isField : name ∈ session.storage.schema.fields)
    (noIdentity : name ≠ Field.identityName)
    {operand : Json}
    {text : List Char}
    (spells : Json.Spells (Json.maximalDepth - 1) text operand)
    {operator : Operator}
    (isOperator : Criteria.readOperator name operand = .ok operator)
    (few :
      ∀ condition, operator.toCondition name = .ok condition →
        condition.operands.length ≤ Database.maximalParameters)
    {id : Int64}
    {row : Row}
    (isRow : table.row? id = some row)
    (holds : operator.eval (table.interpretation row) name = .holds) :
    session.Finds (String.ofList (Json.objectText [(name, text)])) id := by
  have isIdentifier : (Field.column name).WellFormed :=
    ready.storage.areFields.areIdentifiers name isField
  have fieldRead : Field.read name = .ok (.column name) :=
    Field.read_name isIdentifier (by simpa using noIdentity)
  have accepted := Criteria.ofFilter_entry fieldRead isOperator
  have isSmall : (Filter.object [(name, operand)]).IsSmall := by
    have wellFormed := (Criteria.wellFormed_of_ofFilter accepted).1.2
    rcases Operator.exists_toCondition (Field.isColumn_sqlName isIdentifier) wellFormed with
      ⟨condition, made, _⟩
    apply Criteria.isSmall_of_single accepted
    rw [← (Criteria.of_toCondition made).2]
    exact few condition made
  have isText := (spells.single name).read_eq
  exact ready.finds_of_holds isPositive narrow isText accepted isSmall isField isRow holds

/-- When a value was put under a name alone, its cell is there. -/
theorem HasCreated.exists_stored_cell
    (created : session.HasCreated)
    {name : String}
    (isField : name ∈ session.storage.schema.fields)
    {value : Value}
    {id : Int64}
    (isPut : (session.perform (.put ⟨none, .ofList [(name, value)]⟩)).1 = .ok (.id id)) :
    ∃ table row,
      (session.perform (.put ⟨none, .ofList [(name, value)]⟩)).2.Ready table ∧
        table.IsPositive ∧ table.affinities = [] ∧ table.row? id = some row ∧
          Json.member? name (table.columns.zip row.cells) = some (Cell.ofValue value) := by
  let record : Record := ⟨none, .ofList [(name, value)]⟩
  rcases created.exists_ready with ⟨_, readyBefore⟩
  rcases (created.perform (.put record)).exists_ready_plain with
    ⟨table, ready, isPositive, isPlain⟩
  have checked : session.storage.schema.check record = .ok () := by
    apply (Storage.check_eq_ok_iff _ record).mpr
    intro other member
    cases List.mem_singleton.mp member
    exact isField
  have becomes := (readyBefore.rowBecomes_of_put checked rfl isPut).becomes
  rw [row?, view, ready.storage.row?_eq] at becomes
  rcases Option.map_eq_some_iff.mp becomes with ⟨row, isRow, isNewRow⟩
  refine ⟨table, row, ready, isPositive, isPlain, isRow, ?_⟩
  rw [isNewRow, Record.member?_newRow record isField]
  simp [record, Fields.get?, Fields.ofList, Fields.set, Fields.setEntry, Fields.empty,
    Json.member?]

/--
A scalar that was stored is found by its own text.

The text of the scalar is read as the value of a record and as the operand of
a filter.  If the record is put under an id, then equality with the text finds
that id, and so does membership in the set of the text alone if it is not
null.  The rows must have room for their columns in a result.
-/
theorem stored_scalar_is_found
    (created : session.HasCreated)
    (narrow : session.storage.schema.fields.length < Database.maximalColumns)
    {name : String}
    (isField : name ∈ session.storage.schema.fields)
    {text : String}
    {json : Json}
    (isText : Json.read text = .ok json)
    (isScalar : json.IsScalar) :
    ∃ record,
      Record.read (String.ofList (Json.objectText [(name, text.toList)])) = .ok record ∧
        ∀ id, (session.perform (.put record)).1 = .ok (.id id) →
          (session.perform (.put record)).2.Finds
              (String.ofList (Json.objectText [(name, text.toList)])) id ∧
            (json ≠ .null →
              (session.perform (.put record)).2.Finds
                (String.ofList
                  (Json.objectText
                    [(name, Json.objectText [("in-set", Json.arrayText [text.toList])])])) id) := by
  rcases Value.exists_of_isScalar isScalar with ⟨value, isValue⟩
  have isFinite : value.isFinite = true :=
    Value.isFinite_of_ofJson? (Json.isSpellable_of_read isText) isValue
  have noIdentity : name ≠ Field.identityName := fun same =>
    created.identityName_notMem (same ▸ isField)
  have spells (depth : Nat) : Json.Spells depth text.toList json :=
    Json.Spells.of_read isText isScalar depth
  have readsRecord :
      Record.read (String.ofList (Json.objectText [(name, text.toList)])) =
        .ok ⟨none, .ofList [(name, value)]⟩ :=
    Record.read_objectText (.cons ⟨rfl, noIdentity, json, spells _, isValue⟩ .nil)
  refine ⟨_, readsRecord, fun id isPut => ?_⟩
  rcases created.exists_stored_cell isField isPut with
    ⟨table, row, ready, isPositive, isPlain, isRow, found⟩
  rw [← schema_perform session (.put ⟨none, .ofList [(name, value)]⟩)] at narrow isField
  have columns := ready.storage.suits.columns
  have noKey := ready.storage.suits.noKey
  have areFields : AreFields table.columns := columns ▸ ready.storage.areFields
  have isColumn : name ∈ table.columns := columns ▸ isField
  -- Both filters come down to one condition on the column.
  constructor
  · have holds := Table.holds_equality areFields isPlain noKey isColumn found isFinite
    refine
      ready.finds_of_operator isPositive narrow isField noIdentity (spells _)
        (Criteria.readOperator_scalar isValue) ?_ isRow holds
    intro condition isCondition
    rw [Criteria.equality] at isCondition
    split at isCondition
    · cases isCondition
      exact Nat.zero_le _
    · cases isCondition
      exact Nat.le_of_ble_eq_true rfl
  · intro notNull
    have filled : value.isNull = false := by
      rw [Bool.eq_false_iff, Ne, Value.isNull_eq_true_iff]
      rintro rfl
      exact notNull ((Value.ofJson?_eq_null_iff json).mp isValue)
    have holds := Table.holds_inSet areFields isPlain noKey isColumn found isFinite filled
    have spellsSet := (Json.Spells.array (spells 124)).single "in-set"
    refine
      ready.finds_of_operator isPositive narrow isField noIdentity spellsSet
        (Criteria.readOperator_inSet isValue filled) ?_ isRow holds
    intro condition isCondition
    cases isCondition
    exact Nat.le_of_ble_eq_true rfl

/-- A negative zero is found by its text, alone and in a set. -/
theorem negative_zero_is_found :
    let session := inMemory scores .everyPut
    let text := String.ofList (Json.objectText [("score", ['-', '0'])])
    let setText :=
      String.ofList
        (Json.objectText [("score", Json.objectText [("in-set", Json.arrayText [['-', '0']])])])
    ∃ record, Record.read text = .ok record ∧
      (session.perform (.put record)).1 = .ok (.id 1) ∧
        (session.perform (.put record)).2.Finds text 1 ∧
          (session.perform (.put record)).2.Finds setText 1 := by
  intro session text setText
  have isText : Json.read "-0" = .ok (.real (.zero true)) := rfl
  have isField : "score" ∈ session.storage.schema.fields := by decide
  rcases stored_scalar_is_found hasCreated_scores (by decide) isField isText trivial with
    ⟨record, isRecord, finds⟩
  have isRecordToo : Record.read text = .ok ⟨none, .ofList [("score", .real (.zero true))]⟩ :=
    Outcome.eq_ok_of_toOption (by decide +kernel)
  cases isRecord.symm.trans isRecordToo
  have isPut :
      (session.perform (.put ⟨none, .ofList [("score", .real (.zero true))]⟩)).1 = .ok (.id 1) :=
    Outcome.eq_ok_of_toOption (by decide +kernel)
  rcases finds 1 isPut with ⟨equal, inSet⟩
  exact ⟨_, isRecordToo, isPut, equal, inSet (by simp)⟩

/-- In the widest table a scalar can be stored, and its text finds nothing. -/
theorem widest_scalar_is_not_found :
    (inMemory Wide.schema .manual).HasCreated ∧ "_a00" ∈ Wide.schema.fields ∧
      Json.read "1" = .ok (.integer 1) ∧
        ∃ record id,
          Record.read (String.ofList (Json.objectText [("_a00", ['1'])])) = .ok record ∧
            ((inMemory Wide.schema .manual).perform (.put record)).1 = .ok (.id id) ∧
              ¬ ((inMemory Wide.schema .manual).perform (.put record)).2.Finds
                  (String.ofList (Json.objectText [("_a00", ['1'])])) id := by
  have created : (inMemory Wide.schema .manual).HasCreated := ⟨_, [], Wide.creates_wide, rfl⟩
  have isField : "_a00" ∈ Wide.schema.fields := by
    refine List.mem_map.mpr ⟨('a', '0', '0'), ?_, rfl⟩
    decide
  let record : Record := ⟨none, .ofList [("_a00", .integer 1)]⟩
  have isRecord :
      Record.read (String.ofList (Json.objectText [("_a00", ['1'])])) = .ok record := rfl
  have checked : (inMemory Wide.schema .manual).storage.schema.check record = .ok () := by
    apply (Storage.check_eq_ok_iff _ record).mpr
    intro other member
    cases List.mem_singleton.mp member
    exact isField
  have room : (inMemory Wide.schema .manual).HasRoom := fun _ _ isRow => by cases isRow
  rcases created.exists_ready with ⟨table, ready⟩
  rcases (created.perform (.put record)).exists_ready_plain with
    ⟨changed, readyAfter, isPositive, _⟩
  rcases ready.put_new checked rfl room with ⟨id, _, isPut, _⟩
  refine ⟨created, isField, rfl, record, id, isRecord, isPut, ?_⟩
  rintro ⟨_, filter, records, _, _, got, _⟩
  rcases readyAfter.of_get isPositive got with ⟨_, _, narrow, _⟩
  rw [schema_perform] at narrow
  exact Nat.lt_irrefl _ (narrow.trans_le Wide.length_names.ge)

end Session

end RecordStore
