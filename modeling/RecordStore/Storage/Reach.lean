import RecordStore.Storage.Visibility

/-!
# Reachable sessions

A session is led on by the operations that it is asked for, and finds the
workspace as others leave it.  What may be asked for, and what others may do,
is given with a statement about the sessions that are reached.

Two sessions are compared by what they show of themselves and leave in files,
and two storages by what they know of each other.
-/

namespace RecordStore

open Storage (Operation)

/-- A session is reached from another one while only certain things happen to it. -/
inductive Session.Reaches
    (asks : Session → Operation → Prop)
    (changes : Session → Workspace → Prop)
    (start : Session) :
    Session → Prop where
  | start : Reaches asks changes start start
  | asked
      {session : Session}
      {operation : Operation}
      (reached : Reaches asks changes start session)
      (mayAsk : asks session operation) :
      Reaches asks changes start (session.perform operation).2
  | changed
      {session : Session}
      {workspace : Workspace}
      (reached : Reaches asks changes start session)
      (mayChange : changes session workspace) :
      Reaches asks changes start ⟨session.storage, workspace⟩

/--
A change of the workspace spares a connection: its database is left alone, and
the connection stays one of those that share it, if it is.
-/
structure Workspace.Spares (before after : Workspace) (connection : Connection) : Prop where
  leavesAlone :
    ∀ place, connection.place = some place → before.LeavesAlone after place
  staysKnown :
    ∀ place, connection.place = some place → connection.isShared = true →
      (before.share? place).isSome = true → (after.share? place).isSome = true

namespace Storage

/-- The operation removes records. -/
def Operation.IsRemoval : Operation → Prop
  | .delete _ => True
  | .deleteRecord _ => True
  | .deleteAll => True
  | _ => False

/-- The operation puts a record that can be stored, which makes a database of what is seen. -/
def Stores (storage : Storage) (operation : Operation) (database : Database) : Prop :=
  ∃ record id, operation = .put record ∧ storage.schema.check record = .ok () ∧
    storage.storeRecord record = .ok (id, database)

/-- The operation comes to a commit: it is one, or puts a record that can be stored. -/
def ComesToCommit (storage : Storage) (operation : Operation) : Prop :=
  operation = .commit ∨ ∃ database, storage.Stores operation database

/-- Records are to be stored that fit the schema, and one of them cannot be written. -/
def FailsToWrite (storage : Storage) : Operation → Prop
  | .put record =>
      storage.schema.check record = .ok () ∧ ∃ error, (storage.put record).1 = .error error
  | .putMany records =>
      checkAll storage.schema records = .ok () ∧
        ∃ error, (storage.putMany records).1 = .error error
  | _ => False

/-- The operation commits, as long as every put does. -/
def Commits (storage : Storage) : Operation → Prop
  | .put record => ∃ id, (storage.put record).1 = .ok id
  | .putMany records => records ≠ [] ∧ ∃ ids, (storage.putMany records).1 = .ok ids
  | .commit => storage.commit.1 = .ok ()
  | _ => False

/-- The operation fails so gravely that a transaction it takes place in is ended. -/
def Ends (storage : Storage) (operation : Operation) : Prop :=
  ∃ error, (storage.perform operation).1 = .error error ∧ error.aftermath = .ended

/-- Two storages have one table, and share what they know of its database. -/
structure SharesWith (second first : Storage) : Prop where
  place_eq : second.connection.place = first.connection.place
  sameTable : Text.sameName second.table first.table = true
  isShared : second.connection.isShared = true
  isSharedByFirst : first.connection.isShared = true

end Storage

namespace Session

/-- A session is reached by any operations, whatever others do. -/
def ReachesFreely (start session : Session) : Prop :=
  start.Reaches (fun _ _ => True) (fun _ _ => True) session

/--
A session is reached by operations that remove nothing, and every record that
fits the schema could be written.
-/
def ReachesWriting (start session : Session) : Prop :=
  start.Reaches
    (fun session operation => ¬ operation.IsRemoval ∧ ¬ session.current.FailsToWrite operation)
    (fun _ _ => True) session

end Session

end RecordStore
