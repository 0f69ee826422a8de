import RecordStore.Database.Catalogue
import RecordStore.Database.Plan.Choice
import RecordStore.Database.Rule
import RecordStore.Sql.Condition.Places
import RecordStore.Sql.Statement.Reader

/-!
# Databases

A database holds tables under names that differ in more than letter case,
and has some tables of its own that can be read only.  The operations here
do what the statements of SQL do.  Each of them checks its statement first
and changes nothing when it refuses: whether the condition nests too deeply,
whether there are too many placeholders, and whether every name stands for
something.
-/

namespace RecordStore

/-- Tables under distinct names, and the names that are taken by indexes. -/
structure Database where
  tables : List Table
  indexes : List String
  deriving DecidableEq, Repr

/-- The rows that a statement selects. -/
structure ResultSet where
  columns : List String
  rows : List (List Cell)
  deriving DecidableEq, Repr

namespace Database

/-- A database without tables. -/
def empty : Database :=
  ⟨[], []⟩

/-- How many columns a table or a result may have. -/
def maximalColumns : Nat := 2000

/-- How many placeholders a statement may have. -/
def maximalParameters : Nat := 32766

/-- The table with a name. -/
def table? (database : Database) (name : String) : Option Table :=
  database.tables.find? fun table => Text.sameName table.name name

/-- The database with a table in the place of the one that has its name. -/
def replaceTable (database : Database) (table : Table) : Database :=
  { database with
    tables := database.tables.map fun known =>
      if Text.sameName known.name table.name then table else known }

/-- What can be read under a name: a table that was created, or one of the database itself. -/
def relation? (database : Database) (name : String) : Option Table :=
  database.table? name <|> Catalogue.find? database.tables name

/-- The table to be read under a name, which must exist. -/
def getTable (database : Database) (name : String) : Except DatabaseFault Table :=
  match database.relation? name with
  | some table => .ok table
  | none => .error (.noSuchTable name)

/-- The table to be changed under a name, which must exist and not be one of the database itself. -/
def getOwnTable (database : Database) (name : String) : Except DatabaseFault Table := do
  let table ← database.getTable name
  if table.isFixed then
    .error (.fixedTable table.name)
  else
    .ok table

/-! ## Creating tables -/

/-- The name is kept for the database itself. -/
def isReservedName (name : String) : Bool :=
  "sqlite_".toList.isPrefixOf (Text.lower name).toList

/-- Accepts the columns of a new table, one after the other. -/
def checkColumns (table : String) (known : List String) :
    List String → Except DatabaseFault Unit
  | [] => .ok ()
  | name :: rest =>
      if maximalColumns ≤ known.length then
        .error (.tooManyColumns table)
      else if known.any (Text.sameName name) then
        .error (.duplicateColumn name)
      else
        checkColumns table (known ++ [name]) rest

/-- Accepts the name of a new table. -/
def checkTableName (name : String) : Except DatabaseFault Unit :=
  if isReservedName name then
    .error (.reservedName name)
  else
    .ok ()

/-- Adds an empty table, remembered by the statement that creates it. -/
def addTable (database : Database) (name : String) (columns : List String) (definition : String) :
    Except DatabaseFault Database := do
  checkColumns name [] columns
  let table : Table :=
    { name := name
      columns := columns
      rows := []
      definition := some definition
      affinities := []
      key := none
      rules := [] }
  .ok { database with tables := database.tables ++ [table] }

/-- Accepts a name that no index has. -/
def checkFree (database : Database) (name : String) : Except DatabaseFault Unit :=
  if database.indexes.any (Text.sameName name) then .error (.indexExists name) else .ok ()

/-- Creates a table, unless one with its name exists. -/
def createTable (database : Database) (name : String) (columns : List String) :
    Except DatabaseFault Database := do
  checkTableName name
  if (database.table? name).isSome then
    .ok database
  else do
    database.checkFree name
    database.addTable name columns (Sql.Statement.definition name columns)

/-! ## Checking statements -/

/-- Accepts the text of a statement unless it has too many placeholders. -/
def checkParameters (sql : String) : Except DatabaseFault Unit :=
  match Sql.Condition.excessPlaceholder? maximalParameters 0 sql.toList with
  | some offset => .error (.tooManyParameters ⟨sql, offset⟩)
  | none => .ok ()

/-- Accepts a condition unless it nests too deeply. -/
def checkDepth (condition : Option (Sql.Condition Value)) :
    Except DatabaseFault Unit :=
  match condition with
  | none => .ok ()
  | some condition =>
      if DatabaseFault.maximalDepth < condition.height then
        .error .tooDeep
      else
        .ok ()

/-- Accepts a condition all of whose columns stand for something in a table. -/
def checkNames
    (table : Table)
    (sql head : String)
    (condition : Option (Sql.Condition Value)) :
    Except DatabaseFault Unit :=
  match condition with
  | none => .ok ()
  | some condition =>
      let start := (head ++ Sql.Statement.whereKeyword).utf8ByteSize
      match (condition.columnPlaces start).find? fun place =>
          (table.source? place.1).isNone with
      | some (name, offset) => .error (.noSuchColumn name (some ⟨sql, offset⟩))
      | none => .ok ()

/-- Checks the text of a statement with a condition. -/
def checkText (sql : String) (condition : Option (Sql.Condition Value)) :
    Except DatabaseFault Unit := do
  checkDepth condition
  checkParameters sql

/-! ## Reading -/

/-- The name that the row id has in a result. -/
def identityColumn (table : Table) : String :=
  match table.columnIndex? Field.rowIdName with
  | some index => table.columns.getD index Field.rowIdName
  | none =>
      match table.key with
      | some key => table.columns.getD key.column Field.rowIdName
      | none => Field.rowIdName

/-- What stands for the row id in a result. -/
def identitySource (table : Table) : Source :=
  (table.source? Field.rowIdName).getD .identity

/-- The rows of which a condition holds, with their ids in front. -/
def select
    (database : Database)
    (name : String)
    (condition : Option (Sql.Condition Value)) :
    Except DatabaseFault ResultSet := do
  let sql := (Sql.Statement.select name condition).text
  checkText sql condition
  let table ← database.getTable name
  if maximalColumns < table.columns.length + 1 then
    .error .tooManyResultColumns
  else
    checkNames table sql (Sql.Statement.selectHead name) condition
    .ok {
      columns := identityColumn table :: table.columns
      rows := (table.matching condition).map fun row =>
        row.read (identitySource table) :: row.cells }

/-- The number of rows of which a condition holds. -/
def count
    (database : Database)
    (name : String)
    (condition : Option (Sql.Condition Value)) :
    Except DatabaseFault Nat := do
  let sql := (Sql.Statement.count name condition).text
  checkText sql condition
  let table ← database.getTable name
  checkNames table sql (Sql.Statement.countHead name) condition
  .ok (table.matching condition).length

/-! ## Writing -/

/-- Removes the rows of which a condition holds, and says how many there were. -/
def delete
    (database : Database)
    (name : String)
    (condition : Option (Sql.Condition Value)) :
    Except DatabaseFault (Nat × Database) := do
  let sql := (Sql.Statement.delete name condition).text
  checkText sql condition
  let table ← database.getOwnTable name
  checkNames table sql (Sql.Statement.deleteHead name) condition
  .ok
    ((table.matching condition).length,
      database.replaceTable { table with rows := table.others condition })

/-- What a statement has changed: how many rows, the id of a new one, and the database after it. -/
structure Effect where
  changed : Nat
  inserted : Option Int64
  database : Database
  deriving DecidableEq, Repr

/-- The places of the columns that are to be overwritten, with their new cells. -/
def resolveAssignments (table : Table) :
    List (String × Value) → Except DatabaseFault (List (Nat × Cell))
  | [] => .ok []
  | (name, value) :: rest =>
      match table.columnIndex? name with
      | none => .error (.noSuchColumn name none)
      | some index => do
          let others ← resolveAssignments table rest
          .ok ((index, Cell.ofValue value) :: others)

/-- The id that a row is to have: its own, unless another one is assigned to it. -/
def assignedId (table : Table) (cells : List (Nat × Cell)) (id : Int64) :
    Except DatabaseFault Int64 :=
  match (cells.reverse.find? fun entry => table.columnSource entry.1 == .identity).map Prod.snd with
  | none => .ok id
  | some cell =>
      match Affinity.wholeNumber? cell with
      | none => .error .idMismatch
      | some assigned => .ok assigned

/-- The table with a row in the place of the one under an id. -/
def changeRow (table : Table) (id : Int64) (row : Row) : Table :=
  if row.id = id then
    { table with rows := table.rows.map fun known => if known.id == id then row else known }
  else
    { table with
      rows := Table.insertRow row (table.rows.filter fun known => !(known.id == id)) }

/-- Overwrites cells of a row as the rules allow, unless it is gone; the flag says if it was there. -/
def updateRow (table : Table) (cells : List (Nat × Cell)) (row : Row) :
    Except DatabaseFault (Bool × Table) :=
  if (table.row? row.id).isNone then
    .ok (false, table)
  else do
    let id ← assignedId table cells row.id
    let changed := table.numbered { row.overwrite cells with id := id }
    match table.verdict (some row.id) changed with
    | .refused fault => .error fault
    | .dropped => .ok (false, table)
    | .accepted displaced => .ok (true, changeRow (table.without displaced) row.id changed)

/-- Overwrites cells of rows, one after the other, and says of how many. -/
def updateRows (table : Table) (cells : List (Nat × Cell)) :
    List Row → Except DatabaseFault (Nat × Table)
  | [] => .ok (0, table)
  | row :: rest => do
      let (isDone, next) ← updateRow table cells row
      let (others, last) ← updateRows next cells rest
      .ok ((if isDone then 1 else 0) + others, last)

/-- Overwrites columns of the rows of which a condition holds. -/
def update
    (database : Database)
    (name : String)
    (assignments : List (String × Value))
    (condition : Sql.Condition Value) :
    Except DatabaseFault Effect := do
  checkDepth (some condition)
  let table ← database.getOwnTable name
  let cells ← resolveAssignments table assignments
  match condition.columns.find? fun column => (table.source? column).isNone with
  | some column => .error (.noSuchColumn column none)
  | none =>
      let (changed, after) ← updateRows table cells (table.matching (some condition))
      .ok ⟨changed, none, database.replaceTable after⟩

/-- What the columns of a new row stand for, with their cells. -/
def resolveRow (table : Table) (name : String) :
    List (String × Cell) → Except DatabaseFault (List (Source × Cell))
  | [] => .ok []
  | (column, cell) :: rest => do
      let source ←
        match table.columnIndex? column with
        | some index => .ok (table.columnSource index)
        | none =>
            if Field.isRowIdAlias column then
              .ok .identity
            else
              .error (.noColumnNamed name column)
      let others ← resolveRow table name rest
      .ok ((source, cell) :: others)

/-- The next id, which must not be in use; there may be no id left. -/
def freshId (table : Table) : Except DatabaseFault Int64 :=
  match table.nextId? with
  | none => .error .full
  | some id => if (table.row? id).isSome then .error .full else .ok id

/-- The id of a new row: the one given for it, or else the next one. -/
def newId (table : Table) (given : List (Source × Cell)) :
    Except DatabaseFault Int64 :=
  match (given.find? fun entry => entry.1 == .identity).map Prod.snd with
  | none => freshId table
  | some .null => freshId table
  | some cell =>
      match Affinity.wholeNumber? cell with
      | none => .error .idMismatch
      | some id => .ok id

/-- Adds a row with the given cells, as the rules allow. -/
def insertCells
    (database : Database)
    (name : String)
    (given : List (String × Cell)) :
    Except DatabaseFault Effect := do
  let table ← database.getOwnTable name
  let resolved ← resolveRow table name given
  let id ← newId table resolved
  let row := table.numbered ⟨id, table.newCells resolved⟩
  match table.verdict none row with
  | .refused fault => .error fault
  | .dropped => .ok ⟨0, none, database⟩
  | .accepted displaced =>
      let kept := table.without displaced
      .ok
        { changed := 1
          inserted := some id
          database := database.replaceTable { kept with rows := Table.insertRow row kept.rows } }

/-- Adds a row with values for columns. -/
def insert
    (database : Database)
    (name : String)
    (columns : List String)
    (values : List Value) :
    Except DatabaseFault Effect :=
  if values.length = columns.length then
    database.insertCells name (columns.zip (values.map Cell.ofValue))
  else
    .error (.valueCount values.length columns.length)

/-! ## Statements by their texts -/

/-- Runs a statement that adds or overwrites rows. -/
def change (database : Database) : Sql.Change Value → Except DatabaseFault Effect
  | .insert table columns values => database.insert table columns values
  | .update table assignments condition => database.update table assignments condition

/-- Runs the text of a statement that adds or overwrites rows, with parameters bound in order. -/
def execute (database : Database) (sql : String) (parameters : List Value) :
    Except DatabaseFault Effect := do
  checkParameters sql
  match Sql.Change.read? sql with
  | none => .error (.unreadable sql)
  | some change =>
      match change.bind? parameters with
      | none => .error (.parameterCount parameters.length (Sql.marks sql))
      | some bound => database.change bound

end Database

end RecordStore
