import RecordStore.CommandLine.Run
import RecordStore.Workspace.Image

/-!
# The program

Brings the files that a request touches into a workspace, runs the request
there, writes back what has changed, and prints the answer.
-/

namespace RecordStore.Program

/-- What stands at a path. -/
def readEntry (path : String) : IO (Option Entry) := do
  try
    let text ← IO.FS.readFile path
    return some (.file (Content.ofText text))
  catch error =>
    match error with
    | .noFileOrDirectory .. => return none
    | _ => return some .directory

/-- Brings what stands at a place, and on the way to it, into a workspace. -/
def loadPlace (workspace : Workspace) (place : Path.Place) : IO Workspace := do
  let mut loaded := workspace
  for step in Workspace.placesTo place do
    if step ≠ [Path.root] then
      match ← readEntry (Path.text step) with
      | some entry => loaded := loaded.setEntry step entry
      | none => pure ()
  return loaded

/-- Writes what stands at a place. -/
def writeEntry (place : Path.Place) (entry : Entry) : IO Unit :=
  match entry with
  | .directory => IO.FS.createDirAll (Path.text place)
  | .file content => IO.FS.writeFile (Path.text place) content.toText

/-- Everything that is left of a stream. -/
partial def readAll (stream : IO.FS.Stream) (before : String) : IO String := do
  let line ← stream.getLine
  if line.isEmpty then
    return before
  else
    readAll stream (before ++ line)

/-- Runs a request on the files of the current directory. -/
def runRequest (arguments : List String) (request : CommandLine.Request) :
    IO CommandLine.Answer := do
  let directory ← IO.currentDir
  let start := { Workspace.empty with pathLength := directory.toString.utf8ByteSize }
  let settings ← loadPlace start (Path.shortened request.settingsPath)
  let before ←
    match request.databasePlace? settings with
    | some place => loadPlace (← loadPlace settings place) (Path.journal place)
    | none => pure settings
  let input ← if request.readsInput then readAll (← IO.getStdin) "" else pure ""
  let (answer, after) := CommandLine.run arguments input before
  for (place, entry) in before.changes after do
    writeEntry place entry
  return answer

end RecordStore.Program

open RecordStore in
/-- Runs the program with its arguments. -/
def main (arguments : List String) : IO UInt32 := do
  let answer ←
    match CommandLine.Request.read arguments with
    | .ok request => Program.runRequest arguments request
    | .error stop => pure (CommandLine.Answer.ofStop stop)
  IO.print answer.output
  IO.eprint answer.report
  return answer.code.toUInt32
