import RecordStore.Database.Fault
import RecordStore.Database.Table

/-!
# Rules of tables

A row that is put into a table, or in the place of another one, may break rules
of the table.  What must not be null is looked at first, then the id of the
row, then the columns in which rows must not agree.  The first rule decides
that does not just remove the rows in the way; if there is none, these go.
-/

namespace RecordStore

/-- A demand of a table that a row does not meet, with the rows that stand in its way. -/
structure Objection where
  demand : Demand
  columns : List String
  resolution : Resolution
  rivals : List Int64
  deriving DecidableEq, Repr

/-- What the rules of a table say about a row: it is taken for others, or dropped, or refused. -/
inductive Verdict where
  | accepted (displaced : List Int64)
  | dropped
  | refused (fault : DatabaseFault)
  deriving DecidableEq, Repr

namespace Row

/-- Two rows agree in columns; where a cell is null they do not. -/
def agrees (one other : Row) (columns : List Nat) : Bool :=
  columns.all fun index =>
    Comparison.equal.outcome (one.cells.getD index .null) (other.cells.getD index .null) == .holds

end Row

namespace Table

variable (table : Table)

/-- The names of columns. -/
def namesAt (columns : List Nat) : List String :=
  columns.map fun index => table.columns.getD index ""

/-- The ids of the rows that stand in the way of one that comes in the place of a row, if any. -/
def rivals (own : Option Int64) (isRival : Row → Bool) : List Int64 :=
  (table.rows.filter fun other => some other.id != own && isRival other).map Row.id

/-- The objection of a rule about a column that must not be null. -/
def presenceObjection? (row : Row) : Rule → Option Objection
  | .present column resolution =>
      if (row.cells.getD column .null).isNull then
        some
          { demand := .present
            columns := table.namesAt [column]
            resolution := if resolution = .replace then .abort else resolution
            rivals := [] }
      else
        none
  | .distinct _ _ => none

/-- The objection to an id that is taken. -/
def identityObjection? (own : Option Int64) (row : Row) : Option Objection :=
  match table.rivals own fun other => other.id == row.id with
  | [] => none
  | rivals =>
      some <|
        match table.key with
        | none => ⟨.identity, [Field.rowIdName], .abort, rivals⟩
        | some key => ⟨.key, table.namesAt [key.column], key.resolution, rivals⟩

/-- The objection of a rule about columns in which no rows may agree. -/
def distinctObjection? (own : Option Int64) (row : Row) : Rule → Option Objection
  | .present _ _ => none
  | .distinct columns resolution =>
      match table.rivals own fun other => row.agrees other columns with
      | [] => none
      | rivals => some ⟨.distinct, table.namesAt columns, resolution, rivals⟩

/-- All objections to a row that comes in the place of a row, if any. -/
def objections (own : Option Int64) (row : Row) : List Objection :=
  table.rules.filterMap (table.presenceObjection? row) ++
    (table.identityObjection? own row).toList ++
      table.rules.filterMap (table.distinctObjection? own row)

/-- What the rules say about a row that comes in the place of a row, if any. -/
def verdict (own : Option Int64) (row : Row) : Verdict :=
  let objections := table.objections own row
  match objections.find? fun objection => objection.resolution != .replace with
  | none => .accepted (objections.flatMap Objection.rivals)
  | some objection =>
      if objection.resolution = .ignore then
        .dropped
      else
        .refused
          (.ruleBroken objection.demand table.name objection.columns
            (objection.resolution == .rollback))

/-- The table without the rows under some ids. -/
def without (ids : List Int64) : Table :=
  { table with rows := table.rows.filter fun row => !ids.contains row.id }

/-- The row with its id in the column that is another name of it. -/
def numbered (row : Row) : Row :=
  match table.key with
  | none => row
  | some key => { row with cells := row.cells.set key.column (.integer row.id) }

end Table

end RecordStore
