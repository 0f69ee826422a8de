import RecordStore.Database.Affinity
import RecordStore.Field
import RecordStore.Sql.Condition

/-!
# Tables

A table has named columns and rows in ascending order of their ids.  A name
in a condition is looked for among the columns, without regard to letter
case; a name that is no column may stand for the row id, or for one of the
two truth values.  A row is selected when the condition holds of it; one for
which the condition is unknown is not.
-/

namespace RecordStore

/-- A row: its id, and one cell for each column. -/
structure Row where
  id : Int64
  cells : List Cell
  deriving DecidableEq, Repr

/--
What becomes of a change that would break a rule: the transaction ends, or the
change fails, or the row is left alone, or the rows that stand in its way go.
-/
inductive Resolution where
  | rollback
  | abort
  | ignore
  | replace
  deriving DecidableEq, Repr

/-- A rule for rows: a column must not be null, or no two rows may agree in some columns. -/
inductive Rule where
  | present (column : Nat) (resolution : Resolution)
  | distinct (columns : List Nat) (resolution : Resolution)
  deriving DecidableEq, Repr

/-- A column that is another name of the row id, and what becomes of an id that is taken. -/
structure Key where
  column : Nat
  resolution : Resolution
  deriving DecidableEq, Repr

/-- A table; its rules stand in the order in which they are looked at. -/
structure Table where
  name : String
  columns : List String
  rows : List Row
  definition : Option String
  affinities : List Affinity
  key : Option Key
  rules : List Rule
  deriving DecidableEq, Repr

/-- What a name in a statement stands for. -/
inductive Source where
  | column (index : Nat)
  | identity
  | constant (number : Int64)
  deriving DecidableEq, Repr

namespace Row

/-- What a name stands for in a row. -/
def read (row : Row) : Source → Cell
  | .column index => row.cells.getD index .null
  | .identity => .integer row.id
  | .constant number => .integer number

/-- The row with cells overwritten; of two for one column, the later one counts. -/
def overwrite (row : Row) (assignments : List (Nat × Cell)) : Row :=
  { row with
    cells := assignments.foldl
      (fun cells entry => cells.set entry.1 entry.2) row.cells }

end Row

namespace Table

/-- The index of the column with a name. -/
def columnIndex? (table : Table) (name : String) : Option Nat :=
  table.columns.findIdx? (Text.sameName name)

/-- What a column stands for: itself, or the row id. -/
def columnSource (table : Table) (index : Nat) : Source :=
  if table.key.map Key.column = some index then .identity else .column index

/-- What a name stands for in a condition. -/
def source? (table : Table) (name : String) : Option Source :=
  match table.columnIndex? name with
  | some index => some (table.columnSource index)
  | none =>
      if Field.isRowIdAlias name then some .identity
      else if Text.sameName name "true" then some (.constant 1)
      else if Text.sameName name "false" then some (.constant 0)
      else none

/-- The table is one of the database itself, which alone changes it. -/
def isFixed (table : Table) : Bool :=
  table.definition.isNone

/-- What a source is compared with. -/
def affinity (table : Table) : Source → Affinity
  | .column index => table.affinities.getD index .plain
  | .identity => .numbers
  | .constant _ => .plain

/-- What conditions mean in a row of the table. -/
def interpretation (table : Table) (row : Row) : Sql.Interpretation Value where
  compare column comparison operand :=
    match table.source? column with
    | some source =>
        comparison.outcome (row.read source)
          ((table.affinity source).apply (Cell.ofValue operand))
    | none => .unknown
  isNull column :=
    match table.source? column with
    | some source => (row.read source).isNull
    | none => false

/-- A condition holds of a row; a missing one holds of every row. -/
def selects
    (table : Table)
    (condition : Option (Sql.Condition Value))
    (row : Row) :
    Bool :=
  match condition with
  | none => true
  | some condition => condition.eval (table.interpretation row) == .holds

/-- The least number from `candidate` on that is no id of the ascending rows. -/
def firstGap (candidate : Int64) : List Row → Int64
  | [] => candidate
  | row :: rest =>
      if row.id < candidate then firstGap candidate rest
      else if row.id = candidate then firstGap (candidate + 1) rest
      else candidate

/--
The id of the next row: one more than the greatest, and 1 in an empty table.

Above the greatest word there is no id, so that the least positive one that
is free takes its place; there may be none.
-/
def nextId? (table : Table) : Option Int64 :=
  match table.rows.getLast? with
  | none => some 1
  | some last =>
      if last.id = Int64.maxValue then
        let gap := firstGap 1 table.rows
        if 0 < gap then some gap else none
      else
        some (last.id + 1)

/-- Puts a row in its place among ascending rows. -/
def insertRow (row : Row) : List Row → List Row
  | [] => [row]
  | first :: rest =>
      if row.id < first.id then
        row :: first :: rest
      else
        first :: insertRow row rest

/-- The row with an id. -/
def row? (table : Table) (id : Int64) : Option Row :=
  table.rows.find? fun row => row.id == id

/-- The cells of a new row: for each column the first cell given for it, or else null. -/
def newCells (table : Table) (given : List (Source × Cell)) : List Cell :=
  (List.range table.columns.length).map fun index =>
    ((given.find? fun entry => entry.1 == .column index).map Prod.snd).getD .null

end Table

end RecordStore
