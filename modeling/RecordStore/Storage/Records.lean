import RecordStore.Record.ResultSet
import RecordStore.Restriction
import RecordStore.Storage.Basic

/-!
# Records in a storage

Reading, putting and removing records.  Filters become criteria, criteria
become the condition of a statement, and the statement runs on what the
storage sees.  A put checks its record against the schema before it begins a
transaction.  What fails later leaves the rows as they were and the transaction
open, unless the fault ends it; only a put that stores its record and cannot
commit it has changed a row although it fails.
-/

namespace RecordStore.Storage

/-- The outcome of a statement that reads. -/
def reading {α : Type} (storage : Storage) (outcome : Except DatabaseFault α) : Except Error α :=
  (DatabaseFault.hinder storage.readHindrance outcome).mapError .database

/-- The outcome of a statement that writes. -/
def writing {α : Type} (storage : Storage) (outcome : Except DatabaseFault α) : Except Error α :=
  (DatabaseFault.hinder storage.writeHindrance outcome).mapError .database

/-! ## Reading -/

/-- The restriction of a filter. -/
def restriction (filter : Filter) : Except Error Restriction :=
  filter.restriction.mapError .criteria

/-- The records that satisfy criteria, in the order in which the database comes by their rows. -/
def select (storage : Storage) (criteria : Criteria) : Except Error (List Record) := do
  let restriction ← criteria.restriction.mapError .criteria
  let results ← storage.reading (storage.view.select storage.table restriction.condition)
  results.records.mapError .database

/-- The records that satisfy a filter. -/
def get (storage : Storage) (filter : Filter) : Except Error (List Record) := do
  let criteria ← (Criteria.ofFilter filter).mapError .criteria
  storage.select criteria

/-- The record stored under an identity. -/
def getById (storage : Storage) (id : Int64) : Except Error (Option Record) := do
  let records ← storage.get (.identity id)
  .ok records.head?

/-- The number of records that satisfy a filter. -/
def count (storage : Storage) (filter : Filter) : Except Error Nat := do
  let restriction ← restriction filter
  storage.reading (storage.view.count storage.table restriction.condition)

/-- The number of records. -/
def size (storage : Storage) : Except Error Nat :=
  storage.count .all

/-- No records are stored. -/
def isEmpty (storage : Storage) : Except Error Bool := do
  let size ← storage.size
  .ok (size == 0)

/-- The storage after something was to be read, which never takes the lock for writing. -/
def afterRead {α : Type} (storage : Storage) (result : Except Error α) : Storage :=
  match result with
  | .ok _ => storage.hold
  | .error error =>
      match error.aftermath with
      | .ended => storage.close
      | .reading => storage.hold
      | _ => storage

/-! ## Putting -/

/--
Stores a record in a new row: the database after that, with the id of the row.
Where the table drops the row, the id is that of the last row that was new.
-/
def insertRecord (storage : Storage) (record : Record) :
    Except Error (Int64 × Database) := do
  let statement : Sql.Statement Value := .insert storage.table record.fields.entries
  let effect ← storage.writing (storage.view.execute statement.text statement.parameters)
  .ok (effect.inserted.getD storage.lastId, effect.database)

/-- Overwrites the row with an id: the database after that, with the id. -/
def updateRecord (storage : Storage) (id : Int64) (record : Record) :
    Except Error (Int64 × Database) :=
  if record.fields.entries.isEmpty then
    .error (.record (.nothingToUpdate id))
  else do
    let statement : Sql.Statement Value :=
      .update storage.table record.fields.entries (.integer id)
    let effect ← storage.writing (storage.view.execute statement.text statement.parameters)
    if effect.changed = 0 then
      .error (.recordNotFound id)
    else
      .ok (id, effect.database)

/-- The database after storing a record, with the id of its row. -/
def storeRecord (storage : Storage) (record : Record) :
    Except Error (Int64 × Database) :=
  match record.id with
  | some id => storage.updateRecord id record
  | none => storage.insertRecord record

/-- The storage with what it remembers of a record that it has stored under an id. -/
def remember (storage : Storage) (record : Record) (id : Int64) : Storage :=
  match record.id with
  | some _ => storage
  | none => { storage with lastId := id }

/-- Stores a record in a transaction, and gives its identity. -/
def enter (storage : Storage) (record : Record) : Except Error Int64 × Storage :=
  match storage.schema.check record with
  | .error fault => (.error (.record fault), storage)
  | .ok _ =>
      let begun := storage.begin
      match begun.storeRecord record with
      | .error error => (.error error, begun.abandon error)
      | .ok (id, database) => (.ok id, (begun.write database).remember record id)

/-- Stores a record and gives its identity: a new row, or new values in the row it came from. -/
def put (storage : Storage) (record : Record) : Except Error Int64 × Storage :=
  match storage.enter record with
  | (.error error, after) => (.error error, after)
  | (.ok id, entered) =>
      let (counted, after) := entered.countPut
      (counted.map fun _ => id, after)

/-- Stores records one after the other, up to the first that fails. -/
def putEach (storage : Storage) : List Record → Except Error (List Int64) × Storage
  | [] => (.ok [], storage)
  | record :: rest =>
      match storage.put record with
      | (.error error, after) => (.error error, after)
      | (.ok id, after) =>
          match after.putEach rest with
          | (.error error, last) => (.error error, last)
          | (.ok ids, last) => (.ok (id :: ids), last)

/-- Accepts records all of which fit the schema, and gives the fault of the first that does not. -/
def checkAll (schema : Schema) : List Record → Except RecordFault Unit
  | [] => .ok ()
  | record :: rest => do
      schema.check record
      checkAll schema rest

/-- Stores records in order, after all of them have been checked against the schema. -/
def putMany (storage : Storage) (records : List Record) :
    Except Error (List Int64) × Storage :=
  match checkAll storage.schema records with
  | .error fault => (.error (.record fault), storage)
  | .ok _ => storage.putEach records

/-! ## Removing -/

/-- Removes the rows that a restriction selects, and says how many there were. -/
def deleteMatching (storage : Storage) (restriction : Restriction) :
    Except Error Nat × Storage :=
  let begun := storage.begin
  match begun.writing (begun.view.delete begun.table restriction.condition) with
  | .error error => (.error error, begun.abandon error)
  | .ok (removed, database) => (.ok removed, begun.write database)

/-- What a filter selects for removal; one that restricts nothing is refused. -/
def removal (filter : Filter) : Except Error Restriction := do
  let criteria ← (Criteria.ofFilter filter).mapError .criteria
  if criteria.isEmpty then
    .error .missingCriteria
  else
    criteria.restriction.mapError .criteria

/-- Removes the records that satisfy a filter, and says how many there were. -/
def delete (storage : Storage) (filter : Filter) : Except Error Nat × Storage :=
  match removal filter with
  | .error error => (.error error, storage)
  | .ok restriction => storage.deleteMatching restriction

/-- Removes the stored row of a record, found by its identity. -/
def deleteRecord (storage : Storage) (record : Record) : Except Error Nat × Storage :=
  match record.toFilter with
  | .error fault => (.error (.record fault), storage)
  | .ok filter => storage.delete filter

/-- Removes every record. -/
def deleteAll (storage : Storage) : Except Error Nat × Storage :=
  storage.deleteMatching .unrestricted

end RecordStore.Storage
