import RecordStore.Identifier
import RecordStore.Text.Blank

/-!
# Locations

A location says where records are stored, as `backend://database:table`.
The backend ends at the first `://`, and the table starts after the last
colon, so that the name of a database may hold colons itself.  Of the text
after that colon only the first word counts.
-/

namespace RecordStore

/-- The systems that can store records. -/
inductive Backend where
  | sqlite
  deriving DecidableEq, Repr

namespace Backend

/-- The name of a backend in a location. -/
def scheme : Backend → String
  | sqlite => "sqlite"

/-- The backend with a name. -/
def ofScheme? (scheme : String) : Option Backend :=
  if scheme = sqlite.scheme then some sqlite else none

end Backend

/-- A table in a database. -/
structure Location where
  backend : Backend
  database : String
  table : String
  deriving DecidableEq, Repr

/-- Why a text is no location. -/
inductive LocationFault where
  | noScheme (text : String)
  | unknownBackend (scheme : String)
  | noTable (text : String)
  | emptyDatabase (text : String)
  | emptyTable (text : String)
  | badTable (table : String) (fault : IdentifierFault)
  deriving DecidableEq, Repr

namespace Location

/-- The name of the database that is kept in memory. -/
def memoryDatabase : String := ":memory:"

/-- The database is kept in memory. -/
def isMemory (location : Location) : Bool :=
  location.database == memoryDatabase

/-- The text of a location. -/
def text (location : Location) : String :=
  location.backend.scheme ++ "://" ++ location.database ++ ":" ++ location.table

/-- What stands before and after the first `://`. -/
def splitScheme? : List Char → Option (List Char × List Char)
  | [] => none
  | ':' :: '/' :: '/' :: rest => some ([], rest)
  | c :: rest => (splitScheme? rest).map fun parts => (c :: parts.1, parts.2)

/-- What stands before and after the last colon. -/
def splitTable? : List Char → Option (List Char × List Char)
  | [] => none
  | c :: rest =>
      match splitTable? rest with
      | some (database, table) => some (c :: database, table)
      | none => if c = ':' then some ([], rest) else none

/-- The location that a text stands for. -/
def parse (text : String) : Except LocationFault Location :=
  match splitScheme? text.toList with
  | none => .error (.noScheme text)
  | some ([], _) => .error (.noScheme text)
  | some (scheme, rest) =>
      match Backend.ofScheme? (String.ofList scheme) with
      | none => .error (.unknownBackend (String.ofList scheme))
      | some backend =>
          match splitTable? rest with
          | none => .error (.noTable text)
          | some ([], _) => .error (.emptyDatabase text)
          | some (database, rest) =>
              match Text.firstWord? rest with
              | none => .error (.emptyTable text)
              | some word =>
                  let table := String.ofList word
                  match Identifier.check table with
                  | .error fault => .error (.badTable table fault)
                  | .ok _ => .ok ⟨backend, String.ofList database, table⟩

/-- The table of a location that was read has an identifier for its name. -/
theorem isIdentifier_of_parse
    {text : String}
    {location : Location}
    (parsed : parse text = .ok location) :
    Identifier.check location.table = .ok () := by
  simp only [parse] at parsed
  split at parsed <;> try contradiction
  split at parsed <;> try contradiction
  split at parsed <;> try contradiction
  split at parsed <;> try contradiction
  split at parsed <;> try contradiction
  next isIdentifier =>
    cases parsed
    exact isIdentifier

end Location

namespace LocationFault

/-- What the fault says to a reader. -/
def message : LocationFault → String
  | noScheme text => s!"incorrect URI definition: '{text}'"
  | unknownBackend scheme => s!"unknown backend '{scheme}'"
  | noTable text =>
      s!"missing table name in '{text}', expected <backend>://<database>:<table>"
  | emptyDatabase text => s!"empty database name in '{text}'"
  | emptyTable text => s!"empty table name in '{text}'"
  | badTable table fault =>
      s!"bad table name '{table}': invalid criteria: {fault.message}"

end LocationFault

end RecordStore
