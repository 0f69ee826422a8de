import RecordStore.Proofs.Outcome
import RecordStore.Storage.Content

/-!
# Rows as records

A value that was stored is read back as `Value.stored` says.  A row whose
cells are all stored values is read as the record that `Record.ofRow` names,
with the row id in front as the identity.

Main statements: `Record.addColumns_ofRow` and `Record.get?_ofRow`.
-/

namespace RecordStore

/-! ## Values by their names -/

theorem Json.member?_map
    {α β : Type}
    (change : α → β)
    (name : String)
    (entries : List (String × α)) :
    member? name (entries.map fun entry => (entry.1, change entry.2)) =
      (member? name entries).map change := by
  induction entries with
  | nil => rfl
  | cons entry rest induction =>
      rcases entry with ⟨known, value⟩
      by_cases same : known = name
      · simp [member?, same]
      · simp [member?, same, induction]

theorem Json.member?_ne_none_iff {α : Type} (name : String) (entries : List (String × α)) :
    member? name entries ≠ none ↔ name ∈ entries.map Prod.fst := by
  induction entries with
  | nil => simp [member?]
  | cons entry rest induction =>
      rcases entry with ⟨known, value⟩
      by_cases same : known = name
      · simp [member?, same]
      · rw [member?, if_neg same, induction, List.map_cons, List.mem_cons]
        exact (or_iff_right (Ne.symm same)).symm

theorem Json.member?_eq_none {α : Type} {name : String} {entries : List (String × α)}
    (absent : name ∉ entries.map Prod.fst) :
    member? name entries = none :=
  Classical.not_not.mp (mt (member?_ne_none_iff name entries).mp absent)

theorem Json.member?_of_mem {α : Type} {entry : String × α} {entries : List (String × α)}
    (apart : (entries.map Prod.fst).Nodup)
    (member : entry ∈ entries) :
    member? entry.1 entries = some entry.2 := by
  induction entries with
  | nil => contradiction
  | cons first rest induction =>
      rcases List.nodup_cons.mp apart with ⟨notLater, restApart⟩
      rcases List.mem_cons.mp member with rfl | inRest
      · rw [member?, if_pos rfl]
      · have differ : first.1 ≠ entry.1 := fun same =>
          notLater (same ▸ List.mem_map_of_mem inRest)
        rw [member?, if_neg differ, induction restApart inRest]

namespace Fields

theorem member?_setEntry
    (name other : String)
    (value : Value)
    (entries : List (String × Value)) :
    Json.member? other (setEntry name value entries) =
      if name = other then some value else Json.member? other entries := by
  induction entries with
  | nil => rfl
  | cons entry rest induction =>
      rcases entry with ⟨known, old⟩
      rw [setEntry]
      split
      · next same =>
          subst same
          by_cases isOther : name = other
          · simp [Json.member?, isOther]
          · simp [Json.member?, isOther]
      · next different =>
          split
          · rfl
          · rw [Json.member?, induction, Json.member?]
            by_cases isOther : name = other
            · rw [if_neg (isOther ▸ Ne.symm different), if_pos isOther, if_pos isOther]
            · rw [if_neg isOther, if_neg isOther]

theorem get?_set (fields : Fields) (name other : String) (value : Value) :
    (fields.set name value).get? other =
      if name = other then some value else fields.get? other :=
  member?_setEntry name other value fields.entries

/-- Fields that are set under distinct names are found as they were given. -/
theorem get?_ofList
    {entries : List (String × Value)}
    (apart : (entries.map Prod.fst).Nodup)
    (name : String) :
    (ofList entries).get? name = Json.member? name entries := by
  -- The fields that are there before are carried along, since each is set on top of them.
  have onTop (fields : Fields) :
      (entries.foldl (fun fields entry => fields.set entry.1 entry.2) fields).get? name =
        (Json.member? name entries).or (fields.get? name) := by
    induction entries generalizing fields with
    | nil => rfl
    | cons entry rest induction =>
        rcases entry with ⟨known, value⟩
        rcases List.nodup_cons.mp apart with ⟨notLater, restApart⟩
        rw [List.foldl_cons, induction restApart, get?_set, Json.member?]
        by_cases same : known = name
        · rw [Json.member?_eq_none (same ▸ notLater), if_pos same, if_pos same]
          rfl
        · rw [if_neg same, if_neg same]
  rw [ofList, onTop empty]
  exact Option.or_none

end Fields

namespace Cell

/-- The cell is one that a value is stored as. -/
def IsStored (cell : Cell) : Prop :=
  ∃ value, cell = ofValue value

theorem isStored_ofValue (value : Value) : (ofValue value).IsStored :=
  ⟨value, rfl⟩

theorem toValue_ofValue (value : Value) :
    (ofValue value).toValue = .ok value.stored := by
  cases value with
  | null | boolean | integer => rfl
  | real number =>
      by_cases isNaN : number.isNaN = true
      · simp [ofValue, toValue, Value.stored, isNaN]
      · simp [ofValue, toValue, Value.stored, isNaN]
  | text content =>
      rw [ofValue, toValue, Utf8.decode_encode]
      rfl

theorem value_ofValue (value : Value) : (ofValue value).value = value.stored := by
  rw [Cell.value, toValue_ofValue]

theorem IsStored.toValue
    {cell : Cell}
    (isStored : cell.IsStored) :
    cell.toValue = .ok cell.value := by
  rcases isStored with ⟨value, rfl⟩
  rw [toValue_ofValue, value_ofValue]

/-- A value that was stored is stored again as it is. -/
theorem ofValue_stored (value : Value) : ofValue value.stored = ofValue value := by
  cases value with
  | null | boolean | integer | text => rfl
  | real number =>
      by_cases isNaN : number.isNaN = true
      · simp [Value.stored, ofValue, isNaN]
      · simp [Value.stored, ofValue, isNaN]

theorem IsStored.ofValue_value
    {cell : Cell}
    (isStored : cell.IsStored) :
    ofValue cell.value = cell := by
  rcases isStored with ⟨value, rfl⟩
  rw [value_ofValue, ofValue_stored]

end Cell

namespace Record

theorem addColumns_columns
    {row : NamedCells}
    (noIdentity : ∀ entry ∈ row, Text.sameName entry.1 Field.rowIdName = false)
    (areStored : ∀ entry ∈ row, entry.2.IsStored)
    (record : Record)
    (index : Nat) :
    record.addColumns index row =
      .ok
        { record with
          fields :=
            (row.map fun entry => (entry.1, entry.2.value)).foldl
              (fun fields entry => fields.set entry.1 entry.2) record.fields } := by
  induction row generalizing record index with
  | nil => rfl
  | cons entry rest induction =>
      have isColumn := noIdentity entry List.mem_cons_self
      have isValue : valueOf index entry.2 = .ok entry.2.value := by
        rw [valueOf, (areStored entry List.mem_cons_self).toValue]
      rw [addColumns, isColumn, isValue]
      exact
        induction (fun other member => noIdentity other (List.mem_cons_of_mem entry member))
          (fun other member => areStored other (List.mem_cons_of_mem entry member))
          (record.set entry.1 entry.2.value) (index + 1)

/-- A row of stored values is read as a record under its id. -/
theorem addColumns_ofRow
    {row : NamedCells}
    (noIdentity : ∀ entry ∈ row, Text.sameName entry.1 Field.rowIdName = false)
    (areStored : ∀ entry ∈ row, entry.2.IsStored)
    (id : Int64) :
    Record.empty.addColumns 0 ((Field.rowIdName, .integer id) :: row) =
      .ok (ofRow id row) := by
  rw [addColumns, Text.sameName_self]
  exact addColumns_columns noIdentity areStored { Record.empty with id := some id } 1

theorem get?_ofRow
    {row : NamedCells}
    (apart : (row.map Prod.fst).Nodup)
    (id : Int64)
    (name : String) :
    (ofRow id row).fields.get? name = (Json.member? name row).map Cell.value := by
  rw [ofRow, Fields.get?_ofList, Json.member?_map]
  rw [List.map_map]
  exact apart

/-- The names of the fields that are read from a row are those of its columns. -/
theorem mem_names_ofRow
    {row : NamedCells}
    (apart : (row.map Prod.fst).Nodup)
    (id : Int64)
    (name : String) :
    name ∈ (ofRow id row).fields.names ↔ name ∈ row.map Prod.fst := by
  rw [Fields.names, ← Json.member?_ne_none_iff, ← Json.member?_ne_none_iff]
  show (ofRow id row).fields.get? name ≠ none ↔ _
  rw [get?_ofRow apart, Ne, Option.map_eq_none_iff]

/-- Writing back what was read from a row leaves the row as it was. -/
theorem changedRow_ofRow
    {row : NamedCells}
    (apart : (row.map Prod.fst).Nodup)
    (areStored : ∀ entry ∈ row, entry.2.IsStored)
    (id : Int64) :
    (ofRow id row).changedRow row = row := by
  have each : ∀ entry ∈ row,
      (entry.1, (((ofRow id row).fields.get? entry.1).map Cell.ofValue).getD entry.2) = entry := by
    intro entry member
    rw [get?_ofRow apart, Json.member?_of_mem apart member, Option.map_some, Option.map_some,
      (areStored entry member).ofValue_value]
    rfl
  rw [changedRow, List.map_congr_left each, List.map_id']

theorem member?_newRow
    (record : Record)
    {columns : List String}
    {name : String}
    (isColumn : name ∈ columns) :
    Json.member? name (record.newRow columns) =
      some (Cell.ofValue ((record.fields.get? name).getD .null)) := by
  induction columns with
  | nil => contradiction
  | cons first rest induction =>
      rw [newRow, List.map_cons, Json.member?]
      split
      · next same => rw [same]
      · next different =>
          rcases List.mem_cons.mp isColumn with same | inRest
          · exact absurd same.symm different
          · exact induction inRest

/-- A new row is read as what was put, and null where nothing was. -/
theorem get?_ofRow_newRow
    (record : Record)
    {columns : List String}
    (apart : columns.Nodup)
    (id : Int64)
    {name : String}
    (isColumn : name ∈ columns) :
    (ofRow id (record.newRow columns)).fields.get? name =
      some ((record.fields.get? name).getD .null).stored := by
  have names : (record.newRow columns).map Prod.fst = columns := by
    rw [newRow, List.map_map]
    exact List.map_id columns
  rw [get?_ofRow (names.symm ▸ apart), member?_newRow record isColumn, Option.map_some,
    Cell.value_ofValue]

/-- An overwritten row is read as it was, but for what was put into it. -/
theorem get?_ofRow_changedRow
    (record : Record)
    {row : NamedCells}
    (apart : (row.map Prod.fst).Nodup)
    (id : Int64)
    (name : String) :
    (ofRow id (record.changedRow row)).fields.get? name =
      ((ofRow id row).fields.get? name).map fun old =>
        ((record.fields.get? name).map Value.stored).getD old := by
  have names : (record.changedRow row).map Prod.fst = row.map Prod.fst := by
    simp [changedRow]
  rw [get?_ofRow (names.symm ▸ apart), get?_ofRow apart]
  clear names apart
  induction row with
  | nil => rfl
  | cons entry rest induction =>
      rcases entry with ⟨known, cell⟩
      rw [changedRow, List.map_cons, Json.member?, Json.member?]
      split
      · next same =>
          subst same
          cases given : record.fields.get? known with
          | none => rfl
          | some value => simp [Cell.value_ofValue]
      · exact induction

end Record

end RecordStore
