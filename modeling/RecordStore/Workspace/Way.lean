import RecordStore.Location
import RecordStore.Workspace.Connection

/-!
# The way to a file

Whoever opens the database in a file looks at what stands on the way to it, and
does so twice.  The system walks to the directory above the file, and meets a
directory wherever it comes by.  The database takes back names of the path of
the file itself, whatever stands there, but lets the path go on to no name
below a file.

A path may go on to a name below the very file to which it leads in the end.
Such a path leads there only as long as the file is missing.
-/

namespace RecordStore

/-- The kinds of things that stand at places. -/
inductive Entry.Kind where
  | directory
  | file
  deriving DecidableEq, Repr

/-- What kind of thing an entry is. -/
def Entry.kind : Entry → Entry.Kind
  | directory => .directory
  | file _ => .file

namespace Path

/-- The places that a walk along parts comes by, from where it starts to where it ends. -/
def visited (place : Place) : List String → List Place
  | [] => [place]
  | part :: rest =>
      place ::
        (if part = here then visited place rest
        else if part = above then visited (parent place) rest
        else visited (place ++ [part]) rest)

/-- The places below which the pieces of a path go on to a name. -/
def entered (place : Place) : List String → List Place
  | [] => []
  | part :: rest =>
      if part.isEmpty || part = here then entered place rest
      else if part = above then entered (parent place) rest
      else place :: entered (place ++ [part]) rest

end Path

namespace Location

/-- The places that a walk to the directory above the database comes by. -/
def visited (location : Location) : List Path.Place :=
  match Path.directoriesAbove location.database with
  | [] => []
  | path :: _ => Path.visited (Path.start path) (Path.steps path)

/-- The places below which the path of the database goes on to a name. -/
def entered (location : Location) : List Path.Place :=
  match (Address.read location.database).map Address.home with
  | .ok (.file name) => Path.entered (Path.start name) (Path.pieces name)
  | _ => []

end Location

namespace Workspace

/-- What kind of thing stands at a place, if anything does. -/
def kind? (workspace : Workspace) (place : Path.Place) : Option Entry.Kind :=
  (workspace.entry? place).map Entry.kind

/--
A change of the workspace leaves alone the way to the database of a location,
whose file stands at a place.
-/
structure LeavesWay
    (before after : Workspace)
    (location : Location)
    (place : Path.Place) :
    Prop where
  pathLength_eq : after.pathLength = before.pathLength
  kind?_eq :
    ∀ other ∈ location.visited ++ location.entered, after.kind? other = before.kind? other
  journal :
    after.isDirectory (Path.journal place) = true →
      before.isDirectory (Path.journal place) = true

end Workspace

end RecordStore
