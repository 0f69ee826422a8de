import RecordStore.Text.Blank
import RecordStore.Text.Utf8

/-!
# Paths

A path is a text of names with slashes between them, relative to the
directory in which the program runs unless it starts with a slash.  The
system walks along all of its parts; the database shortens a path before it
hands it over, and both ways are needed here.
-/

namespace RecordStore.Path

/-- The names from the starting directory to a place; the first may be the root. -/
abbrev Place := List String

/-- The name that stands for the root. -/
def root : String := "/"

/-- The part that stands for the directory itself. -/
def here : String := "."

/-- The part that stands for the directory above. -/
def above : String := ".."

/-- The path starts at the root. -/
def isAbsolute (path : String) : Bool :=
  path.toList.head? == some '/'

/-- Where a path starts. -/
def start (path : String) : Place :=
  if isAbsolute path then [root] else []

/-- The place above another; nothing is above the start and the root. -/
def parent (place : Place) : Place :=
  if place = [root] then place else place.dropLast

/-- The pieces of a path between slashes. -/
def pieces (path : String) : List String :=
  (Text.splitAt '/' path.toList).map String.ofList

/--
The parts along which the system walks.

Doubled slashes count once; a slash at the end asks for a directory, as a
last part `.` does.
-/
def steps (path : String) : List String :=
  let parts := (pieces path).filter fun part => !part.isEmpty
  if path.toList.getLast? == some '/' then parts ++ [here] else parts

/-- A piece of a path names something on the way; `.` does so only in front. -/
def isStep (index : Nat) (piece : String) : Bool :=
  !piece.isEmpty && (piece != here || index == 0)

/-- The beginnings of a path that end with a name, the shortest first. -/
def beginnings (path : String) : List String :=
  let parts := pieces path
  parts.zipIdx.filterMap fun part =>
    if isStep part.2 part.1 then
      some ("/".intercalate (parts.take (part.2 + 1)))
    else
      none

/-- The paths of the directories above what a path leads to, the longest first. -/
def directoriesAbove (path : String) : List String :=
  (beginnings path).dropLast.reverse

/-- The place that a path comes to when `..` takes back the part before it. -/
def shortened (path : String) : Place :=
  (pieces path).foldl
    (fun place part =>
      if part.isEmpty || part = here then place
      else if part = above then parent place
      else place ++ [part])
    (start path)

/-- The place of the file that keeps what a change of another file overwrites. -/
def journal (place : Place) : Place :=
  place.dropLast ++ (place.getLast?.map fun name => name ++ "-journal").toList

/-- How many bytes the path from the root to a place has, by that of the starting directory. -/
def length (start : Nat) (place : Place) : Nat :=
  let names := if place.head? = some root then place.drop 1 else place
  let before := if place.head? = some root then 0 else start
  names.foldl (fun count name => count + 1 + name.utf8ByteSize) before

/-- The path that leads to a place. -/
def text (place : Place) : String :=
  match place with
  | [] => here
  | first :: rest =>
      if first = root then root ++ "/".intercalate rest
      else "/".intercalate (first :: rest)

/-- The path of a name in a directory; an absolute name stands for itself. -/
def join (directory name : String) : String :=
  if directory.isEmpty || isAbsolute name then
    name
  else if directory.toList.getLast? == some '/' then
    directory ++ name
  else
    directory ++ "/" ++ name

/-- How many bytes the name of a file may have. -/
def maximalName : Nat := 255

/-- How many bytes a path may have. -/
def maximalLength : Nat := 4095

/-- The index of the first NUL character, in bytes. -/
def nulIndex? (path : String) : Option Nat :=
  let before := path.toList.takeWhile fun c => c.toNat ≠ 0
  if before.length < path.toList.length then
    some (Utf8.byteCount before)
  else
    none

end RecordStore.Path
