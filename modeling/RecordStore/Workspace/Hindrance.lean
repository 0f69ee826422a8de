import RecordStore.Workspace.Connection

/-!
# What hinders connections

A connection may be unable to read its database or to change it, for what
stands in the workspace or for what others are doing.  Transactions hold locks:
whoever reads keeps others from committing, whoever writes keeps others from
writing, and whoever has written into the file keeps others from beginning to
read.  Connections that share what they know share their locks as well, and
keep each other from tables that are changing instead.
-/

namespace RecordStore

namespace Path

/-- The place is that of a file in memory, where nobody reads while someone is writing. -/
def isMemoryFile (place : Place) : Bool :=
  place.take 2 == ["", "file"]

end Path

namespace Workspace

/-! ## Locks -/

/-- What a connection holds with a lock; nothing is locked of its own database or a frozen one. -/
def hold? (connection : Connection) (lock : Lock) : Option Hold :=
  if connection.isFrozen then
    none
  else
    connection.place.map fun place => ⟨place, lock, connection.isShared⟩

/-- What is held after something is given up; of those at a place only one can be writing. -/
def release (holds : List Hold) (hold : Hold) : List Hold :=
  match hold.lock with
  | .reading => holds.erase hold
  | _ => holds.filter fun known => known.place != hold.place || known.lock == .reading

/-- What is held besides the lock of a connection. -/
def holdsWithout (workspace : Workspace) (connection : Connection) (own : Option Lock) :
    List Hold :=
  match own.bind (hold? connection) with
  | none => workspace.holds
  | some hold => release workspace.holds hold

/-- The workspace in which a connection holds another lock than before. -/
def exchange
    (workspace : Workspace)
    (connection : Connection)
    (before after : Option Lock) :
    Workspace :=
  if before = after then
    workspace
  else
    { workspace with
      holds :=
        (after.bind (hold? connection)).toList ++ workspace.holdsWithout connection before }

/-- The locks that others hold on the database of a connection, which may hold one itself. -/
def othersLocks (workspace : Workspace) (connection : Connection) (own : Option Lock) :
    List Lock :=
  if connection.isFrozen then
    []
  else
    ((workspace.holdsWithout connection own).filter fun hold =>
        connection.place == some hold.place && !(connection.isShared && hold.isShared)).map
      Hold.lock

/-- Others keep a connection from beginning to read. -/
def isBusyForReading (workspace : Workspace) (connection : Connection) (own : Option Lock) :
    Bool :=
  own.isNone &&
    (workspace.othersLocks connection own).any fun lock =>
      lock == .exclusive || (lock == .writing && connection.place.any Path.isMemoryFile)

/-- Others keep a connection from beginning to write. -/
def isBusyForWriting (workspace : Workspace) (connection : Connection) (own : Option Lock) :
    Bool :=
  (workspace.othersLocks connection own).any Lock.isWriting

/-- Others keep a connection from committing. -/
def isBusyForCommit (workspace : Workspace) (connection : Connection) (own : Option Lock) :
    Bool :=
  (workspace.othersLocks connection own).contains .reading

/-- The file of a connection cannot take any more. -/
def lacksSpace (workspace : Workspace) (connection : Connection) : Bool :=
  workspace.isFull && connection.place.any fun place => !Path.isInMemory place

/-! ## Reading and writing -/

/-- The journal of a file cannot be read, and the file holds something that it could belong to. -/
def hasBadJournal (workspace : Workspace) (place : Path.Place) : Bool :=
  match workspace.entry? place with
  | some (.file content) =>
      !isVacant content && !Path.isInMemory place && workspace.isDirectory (Path.journal place)
  | _ => false

/-- The journal of a file cannot be written. -/
def lacksJournal (workspace : Workspace) (place : Path.Place) : Bool :=
  let journal := Path.journal place
  !Path.isInMemory place &&
    (workspace.isDirectory journal ||
      (journal.getLast?.any fun name => Path.maximalName < name.utf8ByteSize))

/--
The connection cannot begin to read its database.  A journal that someone is
writing is not looked into.
-/
def isUnreadable (workspace : Workspace) (connection : Connection) (own : Option Lock) : Bool :=
  own.isNone && !connection.isFrozen && connection.place.any workspace.hasBadJournal &&
    !workspace.isBusyForWriting connection own

/-- The database at a place. -/
def database (workspace : Workspace) (place : Path.Place) :
    Except DatabaseFault Database :=
  match workspace.entry? place with
  | some (.file content) => databaseOf content
  | _ => .ok .empty

/-- Why a connection cannot begin to read by now; it may hold a lock already. -/
def openingHindrance?
    (workspace : Workspace)
    (connection : Connection)
    (own : Option Lock) :
    Option DatabaseFault :=
  if workspace.isBusyForReading connection own then some .busy
  else if workspace.isUnreadable connection own then some .cannotRead
  else none

/-- The database of a connection that has just been opened. -/
def read (workspace : Workspace) (connection : Connection) : Except DatabaseFault Database :=
  match connection.place with
  | none => .ok .empty
  | some place =>
      match workspace.openingHindrance? connection none with
      | some fault => .error fault
      | none => workspace.database place

/--
Writes a database to the place of a connection that does not own it; one
that is there already is not written again.
-/
def save (workspace : Workspace) (connection : Connection) (database : Database) : Workspace :=
  match connection.place with
  | none => workspace
  | some place =>
      match workspace.database place with
      | .ok known =>
          if known = database || connection.isFrozen then workspace
          else workspace.setEntry place (.file (.database database))
      | .error _ => workspace

/-- Why a table cannot be read by now; the connection may hold a lock itself. -/
def readHindrance?
    (workspace : Workspace)
    (connection : Connection)
    (own : Option Lock)
    (table : String) :
    Option DatabaseFault :=
  workspace.openingHindrance? connection own <|>
    ((workspace.changedElsewhere? connection (own.any Lock.isWriting)).filter
      (Text.sameName table)).map .tableLocked

/-- Why nothing can be changed by now; the connection may hold a lock itself. -/
def writeHindrance?
    (workspace : Workspace)
    (connection : Connection)
    (own : Option Lock) :
    Option DatabaseFault :=
  if connection.isReadOnly then
    some .readOnly
  else if (workspace.changedElsewhere? connection (own.any Lock.isWriting)).isSome then
    some .locked
  else if workspace.isBusyForWriting connection own then
    some .busy
  else if workspace.isUnreadable connection own then
    some .cannotRead
  else if connection.place.any workspace.lacksJournal then
    some .cannotOpenJournal
  else if workspace.lacksSpace connection then
    some .full
  else
    none

/-- Why changes cannot be committed by now; the connection may hold a lock itself. -/
def commitHindrance?
    (workspace : Workspace)
    (connection : Connection)
    (own : Option Lock) :
    Option DatabaseFault :=
  if workspace.isBusyForCommit connection own then some .busy
  else if workspace.lacksSpace connection then some .full
  else none

/-- Why a connection without an open transaction cannot make and commit a change by now. -/
def changeHindrance? (workspace : Workspace) (connection : Connection) : Option DatabaseFault :=
  workspace.writeHindrance? connection none <|> workspace.commitHindrance? connection none

end Workspace

end RecordStore
