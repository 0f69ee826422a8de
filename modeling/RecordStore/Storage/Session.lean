import RecordStore.Storage.Content
import RecordStore.Storage.History

/-!
# Sessions

A session is a storage together with the workspace that its database is in.
It begins when a storage is opened, and goes on as long as operations are
performed on it.
-/

namespace RecordStore

/-- A storage and the workspace around it. -/
structure Session where
  storage : Storage
  workspace : Workspace
  deriving DecidableEq, Repr

/-- No database that can be opened at a location, given as text, has the table in it. -/
def Workspace.LacksTable (workspace : Workspace) (text : String) : Prop :=
  ∀ location connection opened database,
    Location.parse text = .ok location →
      Storage.connect workspace location = (.ok connection, opened) →
        opened.read connection = .ok database → database.table? location.table = none

/-- The database at a location can be opened, read and changed; no index has the table's name. -/
def Workspace.CanWrite (workspace : Workspace) (location : Location) : Prop :=
  ∃ connection opened database,
    Storage.connect workspace location = (.ok connection, opened) ∧
      opened.read connection = .ok database ∧
        opened.changeHindrance? connection = none ∧
          database.indexes.any (Text.sameName location.table) = false

namespace Session

open Storage (Operation)

/-- The session begins with a table that is created for a schema. -/
def Creates (session : Session) : Prop :=
  ∃ workspace names schema text policy,
    Schema.ofNames names = .ok schema ∧ workspace.LacksTable text ∧
      Storage.openTable workspace schema text policy = (.ok session.storage, session.workspace)

/-- The session begins with a table that is opened in a workspace, new or not. -/
def Opens (workspace : Workspace) (session : Session) : Prop :=
  (∃ schema text policy,
      Storage.openTable workspace schema text policy =
        (.ok session.storage, session.workspace)) ∨
    ∃ text policy,
      Storage.openExisting workspace text policy = (.ok session.storage, session.workspace)

/-- Performs an operation: its outcome, and the session after it. -/
def perform (session : Session) (operation : Operation) :
    Except Error Storage.Outcome × Session :=
  let (outcome, storage, workspace) :=
    session.storage.run session.workspace fun storage => storage.perform operation
  (outcome, ⟨storage, workspace⟩)

/-- The session after operations in a row. -/
def after (session : Session) (operations : List Operation) : Session :=
  operations.foldl (fun current operation => (current.perform operation).2) session

/-- The session has gone on from the creation of its table. -/
def HasCreated (session : Session) : Prop :=
  ∃ start operations, Creates start ∧ start.after operations = session

/-- The database as the session sees it. -/
def view (session : Session) : Database :=
  session.storage.view

/-- The table that the session sees under a name. -/
def table? (session : Session) (name : String) : Option Table :=
  session.view.table? name

/-- The row under an id in the table of the session. -/
def row? (session : Session) (id : Int64) : Option NamedCells :=
  session.view.row? session.storage.table id

/-- There are greater ids than those of the rows. -/
def HasRoom (session : Session) : Prop :=
  ∀ id row, session.row? id = some row → id < Int64.maxValue

/-- Between two sessions one row comes to be as given, and nothing else changes. -/
structure RowBecomes (before after : Session) (id : Int64) (row : NamedCells) : Prop where
  becomes : after.row? id = some row
  otherRows : ∀ other, other ≠ id → after.row? other = before.row? other
  otherTables :
    ∀ name, Text.sameName before.storage.table name = false →
      after.table? name = before.table? name

/-- What holds at the beginning and is kept by every operation holds after any operations. -/
theorem after_induction
    {motive : Session → Prop}
    (kept : ∀ session operation, motive session → motive (session.perform operation).2)
    {start : Session}
    (holds : motive start)
    (operations : List Operation) :
    motive (start.after operations) := by
  induction operations generalizing start with
  | nil => exact holds
  | cons operation rest induction => exact induction (kept start operation holds)

end Session

end RecordStore
