import RecordStore.Database.Basic
import RecordStore.Record.Basic

/-!
# Records from rows

A row that the database selects becomes a record.  A column that is called
like the row id gives the identity, and every other column a field of its
name.  Columns are read from left to right, and the first cell that has no
value in a record is a fault.
-/

namespace RecordStore

namespace Cell

/-- The name of the kind of a cell. -/
def kind : Cell → String
  | null => "Null"
  | integer _ => "Integer"
  | real _ => "Real"
  | text _ => "Text"
  | blob _ => "Blob"

end Cell

namespace Record

/-- The identity in a cell: a whole number or null. -/
def identityOf (index : Nat) (column : String) :
    Cell → Except DatabaseFault (Option Int64)
  | .null => .ok none
  | .integer number => .ok (some number)
  | other => .error (.badIdentity other.kind index column)

/-- The value in a cell. -/
def valueOf (index : Nat) (cell : Cell) : Except DatabaseFault Value :=
  match cell.toValue with
  | .ok value => .ok value
  | .error .blob => .error (.blobColumn index)
  | .error (.malformedText fault) => .error (.malformedText index fault)

/-- Adds what the columns from `index` on give to a record. -/
def addColumns (record : Record) (index : Nat) :
    List (String × Cell) → Except DatabaseFault Record
  | [] => .ok record
  | (column, cell) :: rest =>
      if Text.sameName column Field.rowIdName then do
        let id ← identityOf index column cell
        addColumns { record with id := id } (index + 1) rest
      else do
        let value ← valueOf index cell
        addColumns (record.set column value) (index + 1) rest

end Record

namespace ResultSet

/-- The records of the selected rows. -/
def records (results : ResultSet) : Except DatabaseFault (List Record) :=
  results.rows.mapM fun cells =>
    Record.addColumns .empty 0 (results.columns.zip cells)

end ResultSet

end RecordStore
