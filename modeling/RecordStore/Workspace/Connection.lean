import RecordStore.Database.Address
import RecordStore.Database.File
import RecordStore.Workspace.Basic

/-!
# Connections to databases

A connection opens a database by its name.  The database may be the
connection's own, or stand at a place of the workspace, where other
connections find it too.  A change of a file needs a second file, its
journal, to be written first.

Connections may share what they know of a database; then none of them reads
a table that another one is changing.  A database that is kept in memory
lasts as long as some connection uses it.
-/

namespace RecordStore

/-- A connection to a database. -/
structure Connection extends Mode where
  place : Option Path.Place
  isShared : Bool
  deriving DecidableEq, Repr

namespace Path

/-- The place of what is kept in memory; no path leads there, since its first name is empty. -/
def inMemory (kind name : String) : Place :=
  ["", kind, name]

/-- The place is one in memory. -/
def isInMemory (place : Place) : Bool :=
  place.head? == some ""

/-- How many bytes the path from the root to a database may have, its journal's name included. -/
def maximalDatabasePath : Nat := 512

/-- How many bytes the name of a journal has beyond that of the database. -/
def journalSuffix : Nat := 8

end Path

namespace Home

/-- The place where a database is kept that is not a connection's own. -/
def place? : Home → Option Path.Place
  | connection => none
  | shared name => some (Path.inMemory "shared" name)
  | memoryFile name => some (Path.inMemory "file" name)
  | file name => some (Path.shortened name)

/-- The place of the file in which a database is kept, if it is. -/
def filePlace? : Home → Option Path.Place
  | file name => some (Path.shortened name)
  | _ => none

end Home

/-- The connection to what an address leads to, as long as it is shared with nobody. -/
def Connection.ofAddress (address : Address) : Connection :=
  let isFrozen := address.isImmutable && address.home.filePlace?.isSome
  { place := address.home.place?
    isReadOnly := address.access == .reading || isFrozen
    isShared := address.isShared
    isFrozen := isFrozen
    isReadOnly_of_isFrozen := fun frozen => by rw [frozen, Bool.or_true] }

namespace Workspace

/-! ## Files with databases -/

/-- What a file with some content is to a database. -/
def databaseOf : Content → Except DatabaseFault Database
  | .database content => .ok content
  | .text content =>
      if content.utf8ByteSize ≤ 1 then
        .ok .empty
      else
        match DatabaseFile.read? content with
        | some found => .ok found
        | none => .error .notADatabase

/-- A file holds nothing that could be a database. -/
def isVacant : Content → Bool
  | .database _ => false
  | .text content => content.utf8ByteSize ≤ 1

/--
The pieces of a path lead from a place to one with a full path that is short
enough for a database.  On the way no name is too long, and no file is taken
for a directory, although `..` takes such names back.
-/
def isWithinReach (workspace : Workspace) (place : Path.Place) : List String → Bool
  | [] => Path.length workspace.pathLength place + Path.journalSuffix ≤ Path.maximalDatabasePath
  | part :: rest =>
      if part.isEmpty || part = Path.here then
        workspace.isWithinReach place rest
      else if part = Path.above then
        workspace.isWithinReach (Path.parent place) rest
      else
        let isPassable :=
          match workspace.entry? place with
          | none => true
          | some (.file _) => false
          | some .directory => part.utf8ByteSize ≤ Path.maximalName
        isPassable &&
          Path.length workspace.pathLength (place ++ [part]) < Path.maximalDatabasePath &&
          workspace.isWithinReach (place ++ [part]) rest

/-- Opens the file of a database; `name` is what the database is called. -/
def openFile (workspace : Workspace) (name file : String) (access : Access) :
    Except DatabaseFault Workspace :=
  let place := Path.shortened file
  if !workspace.isWithinReach (Path.start file) (Path.pieces file) then
    .error (.cannotOpen name)
  else
    match workspace.entry? place with
    | some .directory =>
        .error (if access = .reading then .cannotRead else .cannotOpen name)
    | some (.file _) => .ok workspace
    | none =>
        if access = .creating && workspace.isDirectory (Path.parent place) then
          .ok (workspace.setEntry place (.file (.text "")))
        else
          .error (.cannotOpen name)

/-- Makes a database in memory, unless it is there. -/
def openMemory (workspace : Workspace) (place : Path.Place) : Workspace :=
  match workspace.entry? place with
  | some _ => workspace
  | none => workspace.setEntry place (.file (.database .empty))

/-- Opens the database with a name that is reached by an address. -/
def openHome (workspace : Workspace) (name : String) (address : Address) :
    Except DatabaseFault Workspace :=
  match address.home with
  | .file file => workspace.openFile name file address.access
  | home =>
      match home.place? with
      | none => .ok workspace
      | some place => .ok (workspace.openMemory place)

/-! ## Sharing -/

/-- What connections to the database at a place know of each other. -/
def share? (workspace : Workspace) (place : Path.Place) : Option Share :=
  workspace.shares.find? fun share => share.place == place

/-- The table that connections to the database at a place have changed without committing that. -/
def changing? (workspace : Workspace) (place : Path.Place) : Option String :=
  (workspace.share? place).bind Share.changing

/-- The workspace with what connections to a database know of each other. -/
def setShare (workspace : Workspace) (share : Share) : Workspace :=
  { workspace with
    shares := workspace.shares.filter (fun known => known.place != share.place) ++ [share] }

/-- The workspace without connections to the database at a place. -/
def clearShare (workspace : Workspace) (place : Path.Place) : Workspace :=
  { workspace with shares := workspace.shares.filter fun known => known.place != place }

/-- The users of the place of a connection are counted. -/
def counts (connection : Connection) (place : Path.Place) : Bool :=
  connection.isShared || Path.isInMemory place

/-- The connection as one that shares what is known of the database; the first of them decides. -/
def adopt (connection : Connection) (share : Share) : Connection :=
  if connection.isShared then
    { connection with toMode := share.toMode }
  else
    connection

/-- A connection joins those to the same database. -/
def join (workspace : Workspace) (connection : Connection) : Connection × Workspace :=
  match connection.place with
  | none => (connection, workspace)
  | some place =>
      if counts connection place then
        match workspace.share? place with
        | none =>
            let share : Share :=
              { connection.toMode with
                place := place
                users := 1
                changing := none }
            (connection, workspace.setShare share)
        | some share =>
            (adopt connection share, workspace.setShare { share with users := share.users + 1 })
      else
        (connection, workspace)

/-- Opens a connection to the database with a name. -/
def connect (workspace : Workspace) (name : String) :
    Except DatabaseFault Connection × Workspace :=
  match Path.nulIndex? name with
  | some index => (.error (.nulInPath index), workspace)
  | none =>
      match Address.read name with
      | .error fault => (.error fault, workspace)
      | .ok address =>
          match workspace.openHome name address with
          | .error fault => (.error fault, workspace)
          | .ok opened =>
              let joined := opened.join (.ofAddress address)
              (.ok joined.1, joined.2)

/-- A connection leaves those to the same database; with the last one, a database in memory ends. -/
def disconnect (workspace : Workspace) (connection : Connection) : Workspace :=
  match connection.place with
  | none => workspace
  | some place =>
      if counts connection place then
        match workspace.share? place with
        | none => workspace
        | some share =>
            if 1 < share.users then
              workspace.setShare { share with users := share.users - 1 }
            else
              let left := workspace.clearShare place
              if Path.isInMemory place then left.clearEntry place else left
      else
        workspace

/-- Makes known which table a connection has changed without committing that, if any. -/
def setChanging (workspace : Workspace) (connection : Connection) (table : Option String) :
    Workspace :=
  match connection.place with
  | none => workspace
  | some place =>
      match workspace.share? place with
      | none => workspace
      | some share =>
          if connection.isShared then
            workspace.setShare { share with changing := table }
          else
            workspace

/-- The table that another connection has changed without committing that. -/
def changedElsewhere? (workspace : Workspace) (connection : Connection) (isChanging : Bool) :
    Option String :=
  if connection.isShared && !isChanging then
    (connection.place.bind workspace.share?).bind Share.changing
  else
    none

end Workspace

end RecordStore
