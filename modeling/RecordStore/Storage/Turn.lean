import RecordStore.Storage.Reach

/-!
# Records stored in turn

Several records can be stored by one operation, or by single puts, each of
which finds the workspace as the one before has left it.  Two sessions are
alike if they go on in the same way and show the same rows to everybody else.

A policy may commit while several records are being stored.  What it has
committed by the end of them depends on how many were pending before.
-/

namespace RecordStore

/--
How many of some records that were stored are committed in the end, if others
were pending before them.  Where too many were pending, the next one commits.
-/
def AutoCommit.committedOf (policy : AutoCommit) (pending stored : Nat) : Nat :=
  match policy with
  | manual => 0
  | everyPut => stored
  | every count _ =>
      let waiting := min pending (count - 1)
      (waiting + stored) / count * count - waiting

namespace Storage

/--
How many records are stored by an operation for several ones, up to the first
that fails; one that could not be committed is stored.
-/
def storedCount (storage : Storage) (records : List Record) : Nat :=
  (storage.stages (.putMany records)).countP fun stage =>
    stage.event = .stored ∨ stage.event = .unsettled

/-- How many of some records that are stored are committed, where nothing hinders a commit. -/
def committedCount (storage : Storage) (stored : Nat) : Nat :=
  if storage.commitHindrance = none then
    storage.policy.committedOf storage.pending stored
  else
    0

end Storage

namespace Session

/-- Stores a record: its identity, and the session after it. -/
def put (session : Session) (record : Record) : Except Error Int64 × Session :=
  let (result, storage, workspace) :=
    session.storage.run session.workspace fun storage => storage.put record
  (result, ⟨storage, workspace⟩)

/-- Stores records by a put for each of them, up to the first that fails. -/
def putInTurn (session : Session) : List Record → Except Error (List Int64) × Session
  | [] => (.ok [], session)
  | record :: rest =>
      match session.put record with
      | (.error error, after) => (.error error, after)
      | (.ok id, after) =>
          match after.putInTurn rest with
          | (.error error, last) => (.error error, last)
          | (.ok ids, last) => (.ok (id :: ids), last)

/-- Two sessions go on in the same way, and everybody else sees the same rows around them. -/
structure Alike (first second : Session) : Prop where
  current_eq : first.current = second.current
  seen_eq :
    ∀ other : Storage,
      (other.refresh first.workspace).view = (other.refresh second.workspace).view

end Session

end RecordStore
