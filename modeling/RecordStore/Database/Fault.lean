import RecordStore.Text.Utf8

/-!
# Faults of the database

What the database answers when it cannot do what it is asked, with the text
and the number that it reports.
-/

namespace RecordStore

/-- A place in the text of a statement. -/
structure Place where
  sql : String
  offset : Nat
  deriving DecidableEq, Repr

/-- What a table demands of its rows: not to lack cells, or not to agree in them. -/
inductive Demand where
  | present
  | distinct
  | key
  | identity
  deriving DecidableEq, Repr

/-- Why the database refuses; a rule that is broken may end the transaction. -/
inductive DatabaseFault where
  | noSuchColumn (name : String) (place : Option Place)
  | noColumnNamed (table column : String)
  | duplicateColumn (name : String)
  | tooManyColumns (table : String)
  | tooManyResultColumns
  | tooManyParameters (place : Place)
  | reservedName (table : String)
  | tooDeep
  | tableExists (name : String) (place : Place)
  | indexExists (name : String)
  | noSuchTable (table : String)
  | ruleBroken (demand : Demand) (table : String) (columns : List String) (isFinal : Bool)
  | idMismatch
  | valueCount (values columns : Nat)
  | parameterCount (given needed : Nat)
  | unreadable (sql : String)
  | full
  | fixedTable (table : String)
  | badAuthority (authority : String)
  | noSuchMode (setting mode : String)
  | accessNotAllowed (mode : String)
  | noSuchFileSystem (name : String)
  | cannotOpen (path : String)
  | cannotOpenJournal
  | cannotRead
  | notADatabase
  | readOnly
  | tableLocked (table : String)
  | locked
  | busy
  | nulInPath (index : Nat)
  | blobColumn (index : Nat)
  | malformedText (index : Nat) (fault : Utf8.Fault)
  | badIdentity (kind : String) (index : Nat) (column : String)
  deriving DecidableEq, Repr

namespace Demand

/-- What the database calls the demand when it is not met. -/
def title : Demand → String
  | present => "NOT NULL"
  | _ => "UNIQUE"

/-- The number that the database reports when the demand is not met, with what it stands for. -/
def code : Demand → Nat × String
  | present => (1299, "A NOT NULL constraint failed")
  | distinct => (2067, "A UNIQUE constraint failed")
  | key => (1555, "A PRIMARY KEY constraint failed")
  | identity => (2579, "A rowid is not unique")

end Demand

namespace DatabaseFault

/-- How deep the conditions of a statement may nest. -/
def maximalDepth : Nat := 1000

/-- The text of a fault at a place. -/
def atPlace (message : String) (place : Place) : String :=
  s!"{message} in {place.sql} at offset {place.offset}"

/-- What is wrong with the content of a column. -/
def contentMessage? : DatabaseFault → Option String
  | blobColumn _ => some "BLOB columns cannot be represented in a record"
  | malformedText _ fault => some fault.message
  | _ => none

/-- What the fault says to a reader. -/
def message : DatabaseFault → String
  | noSuchColumn name none => s!"no such column: {name}"
  | noSuchColumn name (some place) => atPlace s!"no such column: {name}" place
  | noColumnNamed table column => s!"table {table} has no column named {column}"
  | duplicateColumn name => s!"duplicate column name: {name}"
  | tooManyColumns table => s!"too many columns on {table}"
  | tooManyResultColumns => "too many columns in result set"
  | tooManyParameters place => atPlace "too many SQL variables" place
  | reservedName table => s!"object name reserved for internal use: {table}"
  | tooDeep => s!"Expression tree is too large (maximum depth {maximalDepth})"
  | tableExists name place => atPlace s!"table {name} already exists" place
  | indexExists name => s!"there is already an index named {name}"
  | noSuchTable table => s!"no such table: {table}"
  | ruleBroken demand table columns _ =>
      let places := ", ".intercalate (columns.map fun column => s!"{table}.{column}")
      s!"{demand.title} constraint failed: {places}"
  | idMismatch => "datatype mismatch"
  | valueCount values columns => s!"{values} values for {columns} columns"
  | parameterCount given needed =>
      s!"Wrong number of parameters passed to query. Got {given}, needed {needed}"
  | unreadable sql => s!"syntax error in {sql}"
  | full => "database or disk is full"
  | fixedTable table => s!"table {table} may not be modified"
  | badAuthority authority => s!"invalid uri authority: {authority}"
  | noSuchMode setting mode => s!"no such {setting} mode: {mode}"
  | accessNotAllowed mode => s!"access mode not allowed: {mode}"
  | noSuchFileSystem name => s!"no such vfs: {name}"
  | cannotOpen path => s!"unable to open database file: {path}"
  | cannotOpenJournal => "unable to open database file"
  | cannotRead => "disk I/O error"
  | notADatabase => "file is not a database"
  | readOnly => "attempt to write a readonly database"
  | tableLocked table => s!"database table is locked: {table}"
  | locked => "database table is locked"
  | busy => "database is locked"
  | nulInPath index => s!"nul byte found in provided data at position: {index}"
  | blobColumn index =>
      s!"Conversion error from type Blob at index: {index}, BLOB columns cannot be represented in a record"
  | malformedText index fault =>
      s!"Conversion error from type Text at index: {index}, {fault.message}"
  | badIdentity kind index column =>
      s!"Invalid column type {kind} at index: {index}, name: {column}"

/-- What it means that another connection has the lock. -/
def lockConflict : String :=
  "Locking conflict due to another connection with a shared cache"

/-- The number that the database reports, with what it stands for. -/
def code? : DatabaseFault → Option (Nat × String)
  | accessNotAllowed _ => some (3, "Access permission denied")
  | readOnly => some (8, "Attempt to write a readonly database")
  | cannotOpen _ => some (14, "Unable to open the database file")
  | cannotOpenJournal => some (14, "Unable to open the database file")
  | cannotRead => some (266, "Error reading from disk")
  | tableLocked _ => some (262, lockConflict)
  | locked => some (262, lockConflict)
  | busy => some (5, "The database file is locked")
  | notADatabase => some (26, "File opened that is not a database file")
  | ruleBroken demand _ _ _ => some demand.code
  | idMismatch => some (20, "Data type mismatch")
  | full => some (13, "Insertion failed because database is full")
  | parameterCount _ _ => none
  | nulInPath _ => none
  | blobColumn _ => none
  | malformedText _ _ => none
  | badIdentity _ _ _ => none
  | _ => some (1, "SQL error or missing database")

/-- What lies behind the fault, from the nearest cause on. -/
def causes (fault : DatabaseFault) : List String :=
  match fault.code?, fault.contentMessage?, fault with
  | some (number, meaning), _, _ => [s!"Error code {number}: {meaning}"]
  | none, some message, _ => [message]
  | none, none, nulInPath _ => [fault.message]
  | none, none, _ => []

/-- What a failure makes of the transaction in which it happens. -/
inductive Aftermath where
  | nothing
  | reading
  | writing
  | ended
  deriving DecidableEq, Repr

/--
What the fault makes of an open transaction.  One that shows in the text of a
statement leaves it alone, and so does one that keeps the statement from
beginning.  Otherwise the transaction goes on with the lock that the statement
has taken, unless the fault is so grave that everything is taken back.
-/
def aftermath : DatabaseFault → Aftermath
  | cannotRead => .ended
  | full => .ended
  | ruleBroken _ _ _ isFinal => if isFinal then .ended else .writing
  | idMismatch => .writing
  | cannotOpenJournal => .writing
  | tableLocked _ => .reading
  | blobColumn _ => .reading
  | malformedText _ _ => .reading
  | badIdentity _ _ _ => .reading
  | _ => .nothing

/-- The fault shows only while a statement runs that writes, and not when its text is checked. -/
def arisesInRun (fault : DatabaseFault) : Bool :=
  match fault.aftermath with
  | .writing => true
  | .ended => true
  | _ => false

/-- The outcome of a statement that cannot run; a fault in its text comes first. -/
def hinder
    {α : Type}
    (hindrance : Option DatabaseFault)
    (outcome : Except DatabaseFault α) :
    Except DatabaseFault α :=
  match hindrance, outcome with
  | none, outcome => outcome
  | some hindrance, .ok _ => .error hindrance
  | some hindrance, .error fault =>
      if fault.arisesInRun then .error hindrance else .error fault

end DatabaseFault

end RecordStore
