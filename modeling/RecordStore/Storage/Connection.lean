import RecordStore.Sql.Statement
import RecordStore.Storage.Basic

/-!
# Other connections

Other programs reach the database in a file too.  They see what is committed
there, may create tables whose columns have any names, and put cells of any
kind into them.
-/

namespace RecordStore

namespace Sql

/-- A name between quotation marks, where it may hold any character. -/
def quoteName (name : String) : String :=
  let doubled := name.toList.flatMap fun c => if c = '\x22' then [c, c] else [c]
  String.ofList ('\x22' :: doubled ++ ['\x22'])

/-- What stands before the name of a table that is created. -/
def createHead : String := "CREATE TABLE "

/-- The statement that creates a table under quoted names. -/
def createQuoted (table : String) (columns : List String) : String :=
  Statement.definition (quoteName table) (columns.map quoteName)

end Sql

namespace Database

/-- Creates a table under quoted names; no table may have its name yet. -/
def createQuoted (database : Database) (table : String) (columns : List String) :
    Except DatabaseFault Database := do
  checkTableName table
  if (database.table? table).isSome then
    .error
      (.tableExists (Sql.quoteName table)
        ⟨Sql.createQuoted table columns, Sql.createHead.utf8ByteSize⟩)
  else do
    database.checkFree table
    database.addTable table columns (Sql.createQuoted table columns)

end Database

namespace Workspace

/-- What an operation makes of the database behind a connection. -/
def changed
    (workspace : Workspace)
    (connection : Connection)
    (operation : Database → Except DatabaseFault Database) :
    Except DatabaseFault Database := do
  let database ← workspace.read connection
  DatabaseFault.hinder (workspace.changeHindrance? connection) (operation database)

/--
Runs an operation on the database with a name, and commits what it has done.
`check` is what needs no database to be seen.
-/
def onDatabase
    (workspace : Workspace)
    (name : String)
    (check : Except DatabaseFault Unit)
    (operation : Database → Except DatabaseFault Database) :
    Except DatabaseFault Unit × Workspace :=
  match workspace.connect name with
  | (.error fault, opened) => (.error fault, opened)
  | (.ok connection, opened) =>
      match check.bind fun _ => opened.changed connection operation with
      | .error fault => (.error fault, opened.disconnect connection)
      | .ok database =>
          (.ok (), (opened.save connection database).disconnect connection)

/-- Creates a table in the database with a name, under quoted names. -/
def createQuoted (workspace : Workspace) (name table : String) (columns : List String) :
    Except DatabaseFault Unit × Workspace :=
  workspace.onDatabase name (Database.checkTableName table) fun database =>
    database.createQuoted table columns

/-- Adds a row with the given cells to a table in the database with a name. -/
def insertCells (workspace : Workspace) (name table : String) (given : List (String × Cell)) :
    Except DatabaseFault Unit × Workspace :=
  workspace.onDatabase name (.ok ()) fun database =>
    (database.insertCells table given).map Database.Effect.database

end Workspace

end RecordStore
