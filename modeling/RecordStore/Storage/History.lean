import RecordStore.Storage.Records

/-!
# Operations of storages

What can be asked of an open storage.  Each operation has an outcome and
leaves a storage behind, also when it fails.
-/

namespace RecordStore.Storage

/-- What can be asked of an open storage. -/
inductive Operation where
  | get (filter : Filter)
  | select (criteria : Criteria)
  | getById (id : Int64)
  | count (filter : Filter)
  | put (record : Record)
  | putMany (records : List Record)
  | delete (filter : Filter)
  | deleteRecord (record : Record)
  | deleteAll
  | commit
  deriving BEq

/-- What an operation that succeeds answers. -/
inductive Outcome where
  | records (found : List Record)
  | record (found : Option Record)
  | count (number : Nat)
  | id (id : Int64)
  | ids (ids : List Int64)
  | done
  deriving DecidableEq

/-- The outcome of an operation that reads, with the storage that it leaves behind. -/
def observe
    {α : Type}
    (outcome : α → Outcome)
    (result : Except Error α)
    (storage : Storage) :
    Except Error Outcome × Storage :=
  (result.map outcome, storage.afterRead result)

/-- The outcome of an operation with the storage that it leaves behind. -/
def conclude
    {α : Type}
    (outcome : α → Outcome)
    (result : Except Error α × Storage) :
    Except Error Outcome × Storage :=
  (result.1.map outcome, result.2)

/-- Performs an operation: its outcome, and the storage after it. -/
def perform (storage : Storage) : Operation → Except Error Outcome × Storage
  | .get filter => storage.observe .records (storage.get filter)
  | .select criteria => storage.observe .records (storage.select criteria)
  | .getById id => storage.observe .record (storage.getById id)
  | .count filter => storage.observe .count (storage.count filter)
  | .put record => conclude .id (storage.put record)
  | .putMany records => conclude .ids (storage.putMany records)
  | .delete filter => conclude .count (storage.delete filter)
  | .deleteRecord record => conclude .count (storage.deleteRecord record)
  | .deleteAll => conclude .count storage.deleteAll
  | .commit => conclude (fun _ => .done) storage.commit

end RecordStore.Storage
