import RecordStore.CommandLine.Arguments
import RecordStore.Record.Reader
import RecordStore.Settings
import RecordStore.Storage.Records

/-!
# Running commands

A run of the program takes arguments, the text of its standard input and the
workspace that it runs in, and gives what it prints and the workspace that
it leaves behind.  Nothing is printed before a command has succeeded.

Putting reads all records before it opens the storage, and removing opens
the storage before it reads the filter.  Showing SQL opens nothing.
-/

namespace RecordStore.CommandLine

/-- What a run of the program leaves to its caller. -/
structure Answer where
  code : Nat
  output : String
  report : String
  deriving DecidableEq, Repr

/-- What a command works with. -/
structure Context where
  uri : Option String
  settings : Settings
  deriving DecidableEq, Repr

namespace Context

/-- The location of the records: the one that is given, or else that of the settings. -/
def location (context : Context) : Except Error String :=
  match context.uri <|> context.settings.uri with
  | some uri => .ok uri
  | none => .error (.config .noLocation)

/-- The schema for fields: those that are given, or else those of the settings, if any. -/
def schema (context : Context) (fields : Option String) : Except Error (Option Schema) :=
  match fields with
  | none => context.settings.schema
  | some names =>
      match Schema.read names with
      | .ok schema => .ok (some schema)
      | .error fault => .error (.schema fault)

/--
Opens the storage.

With a schema the table is created if it is missing; without one it must
exist.
-/
def openStorage
    (context : Context)
    (workspace : Workspace)
    (fields : Option String)
    (policy : Option AutoCommit) :
    Except Error Storage × Workspace :=
  let policy := policy.getD context.settings.policy
  match context.location, context.schema fields with
  | .error error, _ => (.error error, workspace)
  | .ok _, .error error => (.error error, workspace)
  | .ok uri, .ok (some schema) => Storage.openTable workspace schema uri policy
  | .ok uri, .ok none => Storage.openExisting workspace uri policy

/-- Opens the storage and runs an operation on it; only what is committed outlasts that. -/
def withStorage
    {α : Type}
    (context : Context)
    (workspace : Workspace)
    (fields : Option String)
    (policy : Option AutoCommit)
    (operation : Storage → Except Error α × Storage) :
    Except Error α × Workspace :=
  match context.openStorage workspace fields policy with
  | (.error error, opened) => (.error error, opened)
  | (.ok storage, opened) =>
      let (result, after, saved) := storage.run opened operation
      (result, after.disconnect saved)

end Context

/-- The filter in an argument; without one, all records are meant. -/
def readFilter (argument : Option String) : Except Error Filter :=
  match argument with
  | none => .ok .all
  | some text => do
      let json ← (Json.read text).mapError .json
      (Filter.ofJson json).mapError .criteria

/-- The lines of a text that hold more than blanks. -/
def filledLines (text : String) : List String :=
  let lines := (Text.splitAt '\n' text.toList).map String.ofList
  lines.filter fun line => !(Text.trim line).isEmpty

/-- The records in texts, up to the first that holds none. -/
def readRecords (texts : List String) : Except Error (List Record) :=
  texts.mapM fun text => (Record.read text).mapError .json

/-! ## Commands -/

/-- A line of output. -/
def line (text : String) : String :=
  text ++ "\n"

/-- The lines with the records that a filter selects. -/
def getRecords (filter : Option String) (storage : Storage) : Except Error String := do
  let records ← storage.get (← readFilter filter)
  .ok (String.join (records.map fun record => line record.toText))

/-- The line with the number of records that a filter selects. -/
def countRecords (filter : Option String) (storage : Storage) : Except Error String := do
  let count ← storage.count (← readFilter filter)
  .ok (line s!"{count}")

/-- Stores records and commits them. -/
def putRecords (records : List Record) (storage : Storage) :
    Except Error String × Storage :=
  match storage.putMany records with
  | (.error error, after) => (.error error, after)
  | (.ok ids, after) =>
      let (committed, last) := after.commit
      (committed.map fun _ => line s!"Stored {ids.length} record(s) in {storage.table}", last)

/-- Removes what a filter selects, or everything. -/
def remove (filter : Option String) (storage : Storage) : Except Error Nat × Storage :=
  match filter with
  | none => storage.deleteAll
  | some _ =>
      match readFilter filter with
      | .error error => (.error error, storage)
      | .ok filter => storage.delete filter

/-- Removes records and commits that. -/
def deleteRecords (filter : Option String) (storage : Storage) :
    Except Error String × Storage :=
  match remove filter storage with
  | (.error error, after) => (.error error, after)
  | (.ok count, after) =>
      let (committed, last) := after.commit
      (committed.map fun _ => line s!"Deleted {count} record(s) from {storage.table}", last)

/-- The statement on a table for a restriction. -/
def statement (table : String) (isRemoval : Bool) (restriction : Restriction) :
    Sql.Statement Value :=
  if isRemoval then
    .delete table restriction.condition
  else
    .select table restriction.condition

/-- The lines with the statement for a filter and its parameters. -/
def showStatement (context : Context) (filter : Option String) (isRemoval : Bool) :
    Except Error String := do
  let uri ← context.location
  let location ← (Location.parse uri).mapError .location
  let filter ← readFilter filter
  let restriction ← Storage.restriction filter
  if isRemoval && restriction.isEmpty then
    .error .missingCriteria
  else
    let statement := statement location.table isRemoval restriction
    let parameters := Json.array (statement.parameters.map Value.toJson)
    .ok (line statement.text ++ line s!"params: {parameters.toText}")

/-- An operation that reads a storage and leaves it as it is. -/
def reading {α : Type} (operation : Storage → α) (storage : Storage) : α × Storage :=
  (operation storage, storage)

/-- Runs a task: what it prints, and the workspace after it. -/
def perform
    (context : Context)
    (workspace : Workspace)
    (input : String) :
    Task → Except Error String × Workspace
  | .get filter => context.withStorage workspace none none (reading (getRecords filter))
  | .count filter => context.withStorage workspace none none (reading (countRecords filter))
  | .put fields policy texts =>
      match readRecords (if texts.isEmpty then filledLines input else texts) with
      | .error error => (.error error, workspace)
      | .ok records => context.withStorage workspace fields policy (putRecords records)
  | .delete filter => context.withStorage workspace none none (deleteRecords filter)
  | .sql filter isRemoval => (showStatement context filter isRemoval, workspace)

/-- Runs what the program is asked to do: what it prints, and the workspace after it. -/
def Request.run (request : Request) (input : String) (workspace : Workspace) :
    Except Error String × Workspace :=
  match Settings.discover workspace request.settings Path.here with
  | .error error => (.error error, workspace)
  | .ok settings => perform ⟨request.uri, settings⟩ workspace input request.task

/-! ## What a request touches -/

namespace Request

/-- The path of the settings. -/
def settingsPath (request : Request) : String :=
  request.settings.getD Settings.fileName

/-- The place of the database in a file, if there is one and the settings are in the workspace. -/
def databasePlace? (request : Request) (workspace : Workspace) : Option Path.Place :=
  match Settings.discover workspace request.settings Path.here with
  | .error _ => none
  | .ok settings =>
      match Context.location ⟨request.uri, settings⟩ with
      | .error _ => none
      | .ok uri =>
          match Location.parse uri with
          | .error _ => none
          | .ok location =>
              match Address.read location.database with
              | .error _ => none
              | .ok address => address.home.filePlace?

/-- The standard input is read. -/
def readsInput (request : Request) : Bool :=
  match request.task with
  | .put _ _ texts => texts.isEmpty
  | _ => false

end Request

/-! ## Answers -/

/-- The report of an error, with the causes that lie behind it. -/
def reportOf (error : Error) : String :=
  line s!"error: {error.message}" ++
    String.join (error.causes.map fun cause => line s!"  caused by: {cause}")

/-- The answer to a request, from what running it has given. -/
def Answer.ofResult : Except Error String → Answer
  | .ok output => ⟨0, output, ""⟩
  | .error error => ⟨1, "", reportOf error⟩

/-- The name of the program. -/
def programName : String := "dblite"

/-- The version of the program. -/
def programVersion : String := "0.1.0"

/-- How the program is used. -/
def usage : String :=
  let names := "|".intercalate (Command.all.map Command.name)
  line s!"Usage: {programName} [FLAGS] <{names}> [FLAGS] [RECORDS]"

/-- The answer to arguments that do not lead to a command. -/
def Answer.ofStop : Stop → Answer
  | .misuse => ⟨2, "", usage⟩
  | .help => ⟨0, usage, ""⟩
  | .version none => ⟨0, line s!"{programName} {programVersion}", ""⟩
  | .version (some command) =>
      ⟨0, line s!"{programName}-{command.name} {programVersion}", ""⟩

/-- Runs the program: what it answers, and the workspace that it leaves behind. -/
def run (arguments : List String) (input : String) (workspace : Workspace) :
    Answer × Workspace :=
  match Request.read arguments with
  | .error stop => (.ofStop stop, workspace)
  | .ok request =>
      let (result, after) := request.run input workspace
      (.ofResult result, after)

end RecordStore.CommandLine
