import RecordStore.Database.Table
import RecordStore.Proofs.Sql.Truth

/-!
# Comparing cells

Two cells that are not null stand in an order, so that every comparison of
them holds or fails; with a null no comparison does either.  A value is stored
as null only if it is null or not a number, and what a column makes of a cell
is null only if the cell is.
-/

namespace RecordStore

/-! ## Nulls -/

namespace Cell

theorem isNull_eq_true_iff (cell : Cell) : cell.isNull = true ↔ cell = .null := by
  cases cell <;> simp [isNull]

/-- Null is stored for null, and for what is not a number. -/
theorem isNull_ofValue (value : Value) :
    (ofValue value).isNull = (value.isNull || value.isNaN) := by
  cases value with
  | real number =>
      cases isNaN : number.isNaN <;> simp [ofValue, isNaN, isNull, Value.isNull, Value.isNaN]
  | _ => rfl

/-- A value that JSON can spell is stored as null only if it is null. -/
theorem isNull_ofValue_of_isFinite
    {value : Value}
    (isFinite : value.isFinite = true) :
    (ofValue value).isNull = value.isNull := by
  have isNumber : value.isNaN = false := by
    cases value with
    | real number =>
        simp only [Value.isFinite, Double.isFinite, decide_eq_true_eq] at isFinite
        simp only [Value.isNaN, Double.isNaN, Bool.and_eq_false_iff, beq_eq_false_iff_ne]
        exact .inl (Nat.ne_of_lt isFinite)
    | _ => rfl
  rw [isNull_ofValue, isNumber, Bool.or_false]

end Cell

namespace Affinity

theorem isNull_of_readNumber?
    {text : List Char}
    {cell : Cell}
    (isNumber : readNumber? text = some cell) :
    cell.isNull = false := by
  simp only [readNumber?] at isNumber
  split at isNumber
  · contradiction
  · split at isNumber
    · contradiction
    · -- The sign is split off before the kind of number is chosen.
      split at isNumber <;> split at isNumber <;> cases isNumber <;> rfl

/-- What is compared with a column is null only if the operand is. -/
theorem isNull_apply (affinity : Affinity) (cell : Cell) :
    (affinity.apply cell).isNull = cell.isNull := by
  cases affinity with
  | plain => rfl
  | texts => cases cell <;> rfl
  | numbers =>
      cases cell with
      | text bytes =>
          show ((readNumber? _).getD (.text bytes)).isNull = false
          cases isNumber : readNumber? (bytes.map fun byte => Char.ofNat byte.toNat) with
          | none => rfl
          | some number => exact isNull_of_readNumber? isNumber
      | _ => rfl

end Affinity

/-! ## Orders -/

namespace Cell

theorem compareBytes_self (bytes : List UInt8) : compareBytes bytes bytes = .eq := by
  induction bytes with
  | nil => rfl
  | cons byte rest induction =>
      have notLess : ¬ byte < byte := UInt8.lt_irrefl byte
      rw [compareBytes, if_neg notLess, if_neg notLess, induction]

theorem Key.compare_self (key : Key) : key.compare key = .eq := by
  cases key with
  | number units => exact Std.ReflOrd.compare_self
  | text bytes => exact compareBytes_self bytes
  | blob bytes => exact compareBytes_self bytes

theorem eq_of_compareBytes
    {left right : List UInt8}
    (same : compareBytes left right = .eq) :
    left = right := by
  induction left generalizing right with
  | nil =>
      cases right with
      | nil => rfl
      | cons => contradiction
  | cons byte rest induction =>
      cases right with
      | nil => contradiction
      | cons other others =>
          rw [compareBytes] at same
          split at same
          · contradiction
          · next notLess =>
              split at same
              · contradiction
              · next notGreater =>
                  have sameByte : byte = other :=
                    UInt8.le_antisymm (UInt8.not_lt.mp notGreater) (UInt8.not_lt.mp notLess)
                  rw [sameByte, induction same]

theorem Key.eq_of_compare
    {left right : Key}
    (same : left.compare right = .eq) :
    left = right := by
  cases left <;> cases right <;> try contradiction
  case number.number => exact congrArg number (Std.LawfulEqOrd.eq_of_compare same)
  case text.text => exact congrArg text (eq_of_compareBytes same)
  case blob.blob => exact congrArg blob (eq_of_compareBytes same)

theorem exists_key
    {cell : Cell}
    (filled : cell.isNull = false) :
    ∃ key, cell.key? = some key := by
  cases cell with
  | null => contradiction
  | integer | real | text | blob => exact ⟨_, rfl⟩

/-- Cells that are not null stand in an order. -/
theorem exists_compare?
    {left right : Cell}
    (leftFilled : left.isNull = false)
    (rightFilled : right.isNull = false) :
    ∃ order, left.compare? right = some order := by
  rcases exists_key leftFilled with ⟨leftKey, isLeft⟩
  rcases exists_key rightFilled with ⟨rightKey, isRight⟩
  refine ⟨leftKey.compare rightKey, ?_⟩
  rw [compare?, isLeft, isRight]

theorem compare?_null (left : Cell) : left.compare? null = none := by
  cases left <;> rfl

end Cell

namespace Comparison

/-- The outcome is unknown when either cell is null, and only then. -/
theorem outcome_eq_unknown_iff (comparison : Comparison) (left right : Cell) :
    comparison.outcome left right = .unknown ↔ left.isNull = true ∨ right.isNull = true := by
  constructor
  · intro isUnknown
    cases leftFilled : left.isNull with
    | true => exact .inl rfl
    | false =>
        cases rightFilled : right.isNull with
        | true => exact .inr rfl
        | false =>
            rcases Cell.exists_compare? leftFilled rightFilled with ⟨order, stand⟩
            rw [outcome, stand] at isUnknown
            exact absurd isUnknown (Sql.Truth.ofBool_ne_unknown _)
  · rintro (isNull | isNull)
    · rw [(Cell.isNull_eq_true_iff left).mp isNull]
      rfl
    · rw [(Cell.isNull_eq_true_iff right).mp isNull, outcome, Cell.compare?_null]

theorem outcome_equal_self
    {cell : Cell}
    (filled : cell.isNull = false) :
    equal.outcome cell cell = .holds := by
  rcases Cell.exists_key filled with ⟨key, isKey⟩
  have same : cell.compare? cell = some .eq := by
    rw [Cell.compare?, isKey]
    exact congrArg some key.compare_self
  rw [outcome, same]
  rfl

/-- Two cells are equal in either order. -/
theorem outcome_equal_comm {left right : Cell} (same : equal.outcome left right = .holds) :
    equal.outcome right left = .holds := by
  cases isLeft : left.key? with
  | none => simp [outcome, Cell.compare?, isLeft] at same
  | some leftKey =>
      cases isRight : right.key? with
      | none => simp [outcome, Cell.compare?, isLeft, isRight] at same
      | some rightKey =>
          simp only [outcome, Cell.compare?, isLeft, isRight, Sql.Truth.ofBool, admits] at same ⊢
          have sameOrder : leftKey.compare rightKey = .eq := by
            cases order : leftKey.compare rightKey <;> simp [order] at same ⊢
          rw [Cell.Key.eq_of_compare sameOrder, rightKey.compare_self]
          rfl

end Comparison

/-! ## Conditions on a column of a table -/

namespace Table

variable {table : Table} {column : String} {source : Source}

/-- What a column is compared with is turned into what the column wants. -/
theorem interpretation_compare
    (isSource : table.source? column = some source)
    (row : Row)
    (comparison : Comparison)
    (operand : Value) :
    (table.interpretation row).compare column comparison operand =
      comparison.outcome (row.read source)
        ((table.affinity source).apply (Cell.ofValue operand)) := by
  simp only [interpretation, isSource]

theorem interpretation_isNull
    (isSource : table.source? column = some source)
    (row : Row) :
    (table.interpretation row).isNull column = (row.read source).isNull := by
  simp only [interpretation, isSource]

/-- Comparing with a column is unknown when the row has nothing there, or the operand is none. -/
theorem compare_eq_unknown_iff
    (isSource : table.source? column = some source)
    (row : Row)
    (comparison : Comparison)
    (operand : Value) :
    (table.interpretation row).compare column comparison operand = .unknown ↔
      (row.read source).isNull = true ∨ operand.isNull = true ∨ operand.isNaN = true := by
  rw [interpretation_compare isSource, Comparison.outcome_eq_unknown_iff, Affinity.isNull_apply,
    Cell.isNull_ofValue, Bool.or_eq_true]

end Table

end RecordStore
