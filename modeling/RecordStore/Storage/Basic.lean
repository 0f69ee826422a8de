import RecordStore.AutoCommit
import RecordStore.Error
import RecordStore.Workspace.Hindrance

/-!
# Storages

A storage is a table that was opened.  It knows the database as it was last
committed, which is what everybody else sees of it, and the transaction that
its own writes have joined.  What the storage itself sees is the working
state of that transaction, if it has written anything.

A transaction begins before the first write and ends with a commit; a
storage that is closed loses the changes of an open transaction, and so does
one that has met a grave fault.  Reading in an open transaction keeps others
from committing until it ends, and a commit that others keep from being
carried out leaves the transaction open.

A database may be open for reading only, and others may be changing it.  A
storage knows what hinders it from reading, from writing and from committing
for the time being.
-/

namespace RecordStore

/--
How far a storage has come in changing its database.  Nobody else may begin to
read while a transaction is exclusive.
-/
inductive Transaction where
  | idle
  | begun
  | reading
  | writing (working : Database) (isExclusive : Bool)
  deriving DecidableEq, Repr

/--
A table that was opened for records.  `pending` counts the puts since the last
commit, and `lastId` is the id of the last row that was new.
-/
structure Storage where
  location : Location
  isIdentifier : Identifier.check location.table = .ok ()
  schema : Schema
  policy : AutoCommit
  pending : Nat
  lastId : Int64
  committed : Database
  transaction : Transaction
  connection : Connection
  readHindrance : Option DatabaseFault
  writeHindrance : Option DatabaseFault
  commitHindrance : Option DatabaseFault
  isCramped : Bool
  deriving DecidableEq, Repr

namespace Storage

/-- The name of the table. -/
def table (storage : Storage) : String :=
  storage.location.table

/-- The database as the storage sees it. -/
def view (storage : Storage) : Database :=
  match storage.transaction with
  | .writing working _ => working
  | _ => storage.committed

/-- A transaction is open. -/
def isUncommitted (storage : Storage) : Bool :=
  storage.transaction != .idle

/-- What the open transaction holds of the database. -/
def lock? (storage : Storage) : Option Lock :=
  match storage.transaction with
  | .idle => none
  | .begun => none
  | .reading => some .reading
  | .writing _ isExclusive => some (if isExclusive then .exclusive else .writing)

/-- The open transaction may change the database. -/
def isWriting (storage : Storage) : Bool :=
  storage.lock?.any Lock.isWriting

/-! ## Transactions -/

/-- The storage with a transaction open. -/
def begin (storage : Storage) : Storage :=
  match storage.transaction with
  | .idle => { storage with transaction := .begun }
  | _ => storage

/-- The storage after it has read something, which counts in an open transaction only. -/
def hold (storage : Storage) : Storage :=
  match storage.transaction with
  | .begun => { storage with transaction := .reading }
  | _ => storage

/-- The storage after a write of its transaction, which goes into the file where memory is short. -/
def write (storage : Storage) (database : Database) : Storage :=
  let isExclusive := storage.isCramped || storage.lock? == some .exclusive
  { storage with transaction := .writing database isExclusive }

/-- The storage after its transaction has taken the lock for writing, and written nothing. -/
def take (storage : Storage) : Storage :=
  { storage with transaction := .writing storage.view (storage.lock? == some .exclusive) }

/-- The storage without the changes of its open transaction. -/
def close (storage : Storage) : Storage :=
  { storage with transaction := .idle }

/-- The storage while its transaction waits for others to finish reading. -/
def wait (storage : Storage) : Storage :=
  { storage with transaction := .writing storage.view true }

/-- The storage after its transaction was carried out: what it saw is what everybody sees. -/
def publish (storage : Storage) : Storage :=
  { storage with
    pending := 0
    committed := storage.view
    transaction := .idle }

/-- The storage after a failure in its transaction. -/
def abandon (storage : Storage) (error : Error) : Storage :=
  match error.aftermath with
  | .nothing => storage
  | .reading => storage.hold
  | .writing => storage.take
  | .ended => storage.close

/--
Commits the transaction.  Only one that may change the database can fail, and
goes on if it was kept from being carried out by others.
-/
def commit (storage : Storage) : Except Error Unit × Storage :=
  match storage.commitHindrance.filter fun _ => storage.isWriting with
  | none => (.ok (), storage.publish)
  | some fault =>
      (.error (.database fault),
        if fault.aftermath = .ended then storage.close else storage.wait)

/-- Counts a put that has stored its record; the policy may commit. -/
def countPut (storage : Storage) : Except Error Unit × Storage :=
  let counted := { storage with pending := storage.pending + 1 }
  if storage.policy.fires counted.pending then counted.commit else (.ok (), counted)

/-! ## The workspace around -/

/-- The storage with what is committed by now, and with what hinders it. -/
def refresh (storage : Storage) (workspace : Workspace) : Storage :=
  let connection := storage.connection
  let committed :=
    if connection.isFrozen then
      storage.committed
    else
      match connection.place.map workspace.database with
      | some (.ok database) => database
      | _ => storage.committed
  { storage with
    committed := committed
    readHindrance := workspace.readHindrance? connection storage.lock? storage.table
    writeHindrance := workspace.writeHindrance? connection storage.lock?
    commitHindrance := workspace.commitHindrance? connection storage.lock?
    isCramped := workspace.isCramped }

/--
The workspace with what the storage has committed, with what it is changing and
with its lock, after it was another storage before.
-/
def save (storage : Storage) (workspace : Workspace) (before : Storage) : Workspace :=
  let saved := workspace.save storage.connection storage.committed
  let announced :=
    if storage.isWriting then
      saved.setChanging storage.connection (some storage.table)
    else if before.isWriting then
      saved.setChanging storage.connection none
    else
      saved
  announced.exchange storage.connection before.lock? storage.lock?

/-- Runs an operation on a storage in a workspace that others may have changed before. -/
def run
    {α : Type}
    (storage : Storage)
    (workspace : Workspace)
    (operation : Storage → α × Storage) :
    α × Storage × Workspace :=
  let (result, after) := operation (storage.refresh workspace)
  (result, after, after.save workspace storage)

/-- The workspace without the storage, whose open changes are lost. -/
def disconnect (storage : Storage) (workspace : Workspace) : Workspace :=
  let (_, closed, saved) := storage.run workspace fun storage => ((), storage.close)
  saved.disconnect closed.connection

/-! ## Opening -/

/-- Makes the directories above the database of a location, and opens it. -/
def connect (workspace : Workspace) (location : Location) :
    Except Error Connection × Workspace :=
  let (parents, made) :=
    if location.isMemory then
      (.ok (), workspace)
    else
      workspace.makeParents location.database
  match parents with
  | .error fault => (.error (.file fault), made)
  | .ok _ =>
      let (connection, opened) := made.connect location.database
      (connection.mapError .database, opened)

/-- A storage that has just been opened in a workspace. -/
def opened
    (workspace : Workspace)
    (location : Location)
    (isIdentifier : Identifier.check location.table = .ok ())
    (schema : Schema)
    (policy : AutoCommit)
    (connection : Connection)
    (database : Database) :
    Storage :=
  { location := location
    isIdentifier := isIdentifier
    schema := schema
    policy := policy
    pending := 0
    lastId := 0
    committed := database
    transaction := .idle
    connection := connection
    readHindrance := none
    writeHindrance := none
    commitHindrance := none
    isCramped := workspace.isCramped }

/-- The database behind a connection with a table in it, which is created if it is missing. -/
def provideTable
    (workspace : Workspace)
    (connection : Connection)
    (table : String)
    (columns : List String) :
    Except DatabaseFault Database := do
  Database.checkTableName table
  let database ← workspace.read connection
  if (database.table? table).isSome then
    .ok database
  else
    DatabaseFault.hinder (workspace.changeHindrance? connection)
      (database.createTable table columns)

/--
Opens the table at a location, given as text, and creates it for a schema if
it does not exist.  An existing table stays as it is.
-/
def openTable
    (workspace : Workspace)
    (schema : Schema)
    (text : String)
    (policy : AutoCommit) :
    Except Error Storage × Workspace :=
  match parsed : Location.parse text with
  | .error fault => (.error (.location fault), workspace)
  | .ok location =>
      match connect workspace location with
      | (.error error, made) => (.error error, made)
      | (.ok connection, made) =>
          match provideTable made connection location.table schema.fields with
          | .error fault => (.error (.database fault), made.disconnect connection)
          | .ok database =>
              let isIdentifier := Location.isIdentifier_of_parse parsed
              let storage := opened made location isIdentifier schema policy connection database
              (.ok storage, storage.save made storage)

/-- The schema of a table that exists. -/
def readSchema (database : Database) (table : String) : Except SchemaFault Schema :=
  match database.relation? table with
  | none => .error (.noTable table)
  | some found => Schema.ofNames found.columns

/-- Opens the table at a location, given as text; the table must exist and gives the schema. -/
def openExisting
    (workspace : Workspace)
    (text : String)
    (policy : AutoCommit) :
    Except Error Storage × Workspace :=
  match parsed : Location.parse text with
  | .error fault => (.error (.location fault), workspace)
  | .ok location =>
      match connect workspace location with
      | (.error error, made) => (.error error, made)
      | (.ok connection, made) =>
          match made.read connection with
          | .error fault => (.error (.database fault), made.disconnect connection)
          | .ok database =>
              match readSchema database location.table with
              | .error fault => (.error (.schema fault), made.disconnect connection)
              | .ok schema =>
                  let isIdentifier := Location.isIdentifier_of_parse parsed
                  let storage :=
                    opened made location isIdentifier schema policy connection database
                  (.ok storage, made)

end Storage

end RecordStore
