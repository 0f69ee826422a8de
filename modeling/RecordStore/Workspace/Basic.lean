import RecordStore.Database.Basic
import RecordStore.Error
import RecordStore.Workspace.Path

/-!
# Workspaces

A workspace is the directory in which the program runs, with everything
below it.  A file holds a text or a database; an empty file is a text and a
database without tables alike.  Databases that are kept in memory for several
connections stand at places to which no path leads.
-/

namespace RecordStore

/-- What a file holds. -/
inductive Content where
  | text (content : String)
  | database (content : Database)
  deriving DecidableEq, Repr

/-- What stands at a place. -/
inductive Entry where
  | directory
  | file (content : Content)
  deriving DecidableEq, Repr

/-- How a connection treats its database. -/
structure Mode where
  isReadOnly : Bool
  isFrozen : Bool
  isReadOnly_of_isFrozen : isFrozen = true → isReadOnly = true
  deriving DecidableEq, Repr

/-- What connections that use a database together know of each other, with the first one's mode. -/
structure Share extends Mode where
  place : Path.Place
  users : Nat
  changing : Option String
  deriving DecidableEq, Repr

/--
What an open transaction holds of a database.  As long as one is reading nobody
may commit, and as long as one is writing nobody else may write.  One that has
written into the file before its end, or that waits for others to finish
reading, keeps everybody from beginning to read.
-/
inductive Lock where
  | reading
  | writing
  | exclusive
  deriving DecidableEq, Repr

/-- Whoever holds the lock may change the database. -/
def Lock.isWriting (lock : Lock) : Bool :=
  lock != .reading

/-- A lock on the database at a place; the connection may be one that shares what it knows. -/
structure Hold where
  place : Path.Place
  lock : Lock
  isShared : Bool
  deriving DecidableEq, Repr

/--
The directories and files below the directory in which the program runs, and
what connections to databases have made known.  The disk may be full, so that
no file of a database can be written.  The memory for changes may be cramped,
so that a transaction writes into the file before its end.
-/
structure Workspace where
  entries : List (Path.Place × Entry)
  shares : List Share
  holds : List Hold
  isFull : Bool
  isCramped : Bool
  pathLength : Nat
  deriving DecidableEq, Repr

namespace Workspace

/-- A workspace with nothing in it, in a directory such as the system makes for short use. -/
def empty : Workspace :=
  { entries := []
    shares := []
    holds := []
    isFull := false
    isCramped := false
    pathLength := "/tmp/directory0".utf8ByteSize }

/-- What stands at a place; the start and the root are directories. -/
def entry? (workspace : Workspace) (place : Path.Place) : Option Entry :=
  if place = [] ∨ place = [Path.root] then
    some .directory
  else
    (workspace.entries.find? fun entry => entry.1 == place).map Prod.snd

/-- The workspace with something put at a place. -/
def setEntry (workspace : Workspace) (place : Path.Place) (entry : Entry) : Workspace :=
  { workspace with
    entries := workspace.entries.filter (fun known => known.1 != place) ++ [(place, entry)] }

/-- The workspace with nothing at a place. -/
def clearEntry (workspace : Workspace) (place : Path.Place) : Workspace :=
  { workspace with entries := workspace.entries.filter fun known => known.1 != place }

/-- A directory stands at a place. -/
def isDirectory (workspace : Workspace) (place : Path.Place) : Bool :=
  workspace.entry? place == some .directory

/-- The place that parts lead to from another place; all but the last must be directories. -/
def walk (workspace : Workspace) (place : Path.Place) :
    List String → Except FileFault Path.Place
  | [] => .ok place
  | part :: rest =>
      match workspace.entry? place with
      | none => .error .notFound
      | some (.file _) => .error .notADirectory
      | some .directory =>
          if Path.maximalName < part.utf8ByteSize then
            .error .nameTooLong
          else if part = Path.here then
            workspace.walk place rest
          else if part = Path.above then
            workspace.walk (Path.parent place) rest
          else
            workspace.walk (place ++ [part]) rest

/-- The place that a path leads to. -/
def resolve (workspace : Workspace) (path : String) : Except FileFault Path.Place :=
  if (Path.nulIndex? path).isSome then
    .error .nulInName
  else if path.isEmpty then
    .error .notFound
  else if Path.maximalLength < path.utf8ByteSize then
    .error .nameTooLong
  else
    workspace.walk (Path.start path) (Path.steps path)

/-- What stands where a path leads to. -/
def lookup (workspace : Workspace) (path : String) : Except FileFault Entry := do
  let place ← workspace.resolve path
  match workspace.entry? place with
  | some entry => .ok entry
  | none => .error .notFound

/-- A path leads to a file. -/
def isFile (workspace : Workspace) (path : String) : Bool :=
  match workspace.lookup path with
  | .ok (.file _) => true
  | _ => false

/-- The text in the file that a path leads to. -/
def readText (workspace : Workspace) (path : String) : Except FileFault String := do
  match ← workspace.lookup path with
  | .directory => .error .isADirectory
  | .file (.text content) => .ok content
  | .file (.database _) => .error .notText

/-! ## Making directories -/

/-- Makes the directory that a path leads to, in a directory that exists. -/
def makeDirectory (workspace : Workspace) (path : String) :
    Except FileFault Workspace := do
  let place ← workspace.resolve path
  match workspace.entry? place with
  | some _ => .error .alreadyExists
  | none => .ok (workspace.setEntry place .directory)

/-- A path leads to a directory. -/
def reachesDirectory (workspace : Workspace) (path : String) : Bool :=
  match workspace.resolve path with
  | .ok place => workspace.isDirectory place
  | .error _ => false

/--
Makes the first of some directories, each of which lies in the next, and
those of the others that are missing.

The others are tried only while something on the way is missing; a directory
that exists already is no fault.  What was made stays when a later step
fails.
-/
def makeDirectories (workspace : Workspace) :
    List String → Except FileFault Unit × Workspace
  | [] => (.ok (), workspace)
  | path :: others =>
      match workspace.makeDirectory path with
      | .ok made => (.ok (), made)
      | .error .notFound =>
          match workspace.makeDirectories others with
          | (.error fault, made) => (.error fault, made)
          | (.ok _, made) =>
              match made.makeDirectory path with
              | .ok finished => (.ok (), finished)
              | .error fault =>
                  if made.reachesDirectory path then
                    (.ok (), made)
                  else
                    (.error fault, made)
      | .error fault =>
          if workspace.reachesDirectory path then
            (.ok (), workspace)
          else
            (.error fault, workspace)

/-- Makes the directories above the file that a path leads to. -/
def makeParents (workspace : Workspace) (path : String) :
    Except FileFault Unit × Workspace :=
  workspace.makeDirectories (Path.directoriesAbove path)

end Workspace

end RecordStore
