import RecordStore.Storage.Records

/-!
# Contents of tables

What a table holds, seen from outside: under each id a row, which is a list of
columns with their cells.  A row is read as a record with its id as the
identity.  A value that was stored comes back as it was, only that flags come
back as numbers and a NaN as null.
-/

namespace RecordStore

namespace Value

/-- What a value comes back as after it was stored. -/
def stored : Value → Value
  | boolean flag => integer (if flag then 1 else 0)
  | real number => if number.isNaN then null else real number
  | other => other

end Value

namespace Cell

/-- The value that a cell is read as; what no record can hold is left null. -/
def value (cell : Cell) : Value :=
  match cell.toValue with
  | .ok value => value
  | .error _ => .null

end Cell

/-- The columns of a row, each with its cell. -/
abbrev NamedCells := List (String × Cell)

namespace Database

/-- The row under an id in the table with a name. -/
def row? (database : Database) (name : String) (id : Int64) : Option NamedCells :=
  (database.table? name).bind fun table =>
    (table.row? id).map fun row => table.columns.zip row.cells

end Database

namespace Record

/-- The record that is read from the row under an id. -/
def ofRow (id : Int64) (row : NamedCells) : Record :=
  ⟨some id, Fields.ofList (row.map fun entry => (entry.1, entry.2.value))⟩

/-- The row that a record without an identity adds to a table with some columns. -/
def newRow (record : Record) (columns : List String) : NamedCells :=
  columns.map fun name => (name, Cell.ofValue ((record.fields.get? name).getD .null))

/-- A row with the columns that a record names overwritten. -/
def changedRow (record : Record) (row : NamedCells) : NamedCells :=
  row.map fun entry =>
    (entry.1, ((record.fields.get? entry.1).map Cell.ofValue).getD entry.2)

end Record

end RecordStore
