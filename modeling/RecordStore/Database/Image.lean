import RecordStore.Database.Basic
import RecordStore.Json.Reader
import RecordStore.Json.Writer

/-!
# Images of databases

The content of a database as a text, so that it can be kept in a file: a
line that says what the file is, and a JSON array with the tables and the names
of the indexes.  Texts and blobs are written as bytes and doubles as bits, so
that every cell comes back as it was.
-/

namespace RecordStore

namespace Cell

/-- The bytes of an array of numbers. -/
def bytes? (items : List Json) : Option (List UInt8) :=
  items.mapM fun item =>
    match item with
    | .integer number =>
        if 0 ≤ number && number < 256 then some (UInt8.ofNat number.toNat) else none
    | _ => none

/-- Bytes as an array of numbers. -/
def bytesJson (bytes : List UInt8) : Json :=
  .array (bytes.map fun byte => .integer byte.toNat)

/-- The cell as JSON. -/
def toJson : Cell → Json
  | null => .null
  | integer number => .integer number.toInt
  | real number => .object [("bits", .integer number.bits.toNat)]
  | text bytes => .object [("text", bytesJson bytes)]
  | blob bytes => .object [("blob", bytesJson bytes)]

/-- The cell that JSON stands for. -/
def ofJson? : Json → Option Cell
  | .null => some null
  | .integer number =>
      if Value.fitsWord number then some (integer (Int64.ofInt number)) else none
  | .object [("bits", .integer bits)] => some (real ⟨UInt64.ofNat bits.toNat⟩)
  | .object [("text", .array items)] => (bytes? items).map text
  | .object [("blob", .array items)] => (bytes? items).map blob
  | _ => none

end Cell

namespace Row

/-- The row as JSON: the id, and then the cells. -/
def toJson (row : Row) : Json :=
  .array (.integer row.id.toInt :: row.cells.map Cell.toJson)

/-- The row that JSON stands for. -/
def ofJson? : Json → Option Row
  | .array (.integer id :: cells) => do
      let cells ← cells.mapM Cell.ofJson?
      some ⟨Int64.ofInt id, cells⟩
  | _ => none

end Row

namespace Resolution

/-- The name of a resolution. -/
def name : Resolution → String
  | rollback => "rollback"
  | abort => "abort"
  | ignore => "ignore"
  | replace => "replace"

/-- The resolution with a name. -/
def ofName? (name : String) : Option Resolution :=
  [rollback, abort, ignore, replace].find? fun resolution => resolution.name == name

end Resolution

/-- The index that a JSON value is. -/
def Json.index? : Json → Option Nat
  | .integer number => if 0 ≤ number then some number.toNat else none
  | _ => none

namespace Rule

/-- The rule as JSON: its columns, and what becomes of a change that would break it. -/
def toJson : Rule → Json
  | present column resolution => .array [.integer (Int.ofNat column), .text resolution.name]
  | distinct columns resolution =>
      .array [.array (columns.map fun column => .integer (Int.ofNat column)), .text resolution.name]

/-- The rule that JSON stands for. -/
def ofJson? : Json → Option Rule
  | .array [.array columns, .text name] => do
      some (distinct (← columns.mapM Json.index?) (← Resolution.ofName? name))
  | .array [column, .text name] => do
      some (present (← column.index?) (← Resolution.ofName? name))
  | _ => none

end Rule

namespace Key

/-- The key of a table as JSON, if it has one. -/
def toJson : Option Key → Json
  | none => .null
  | some key => .array [.integer key.column, .text key.resolution.name]

/-- The key of a table that JSON stands for, if it is to have one. -/
def ofJson? : Json → Option (Option Key)
  | .null => some none
  | .array [column, .text name] => do
      some (some ⟨← column.index?, ← Resolution.ofName? name⟩)
  | _ => none

end Key

namespace Table

/-- The text that a JSON value is. -/
def text? : Json → Option String
  | .text content => some content
  | _ => none

/-- The table as JSON: the name, the statement that created it, the columns, rules and rows. -/
def toJson (table : Table) : Json :=
  .array
    [.text table.name, .text (table.definition.getD ""), .array (table.columns.map .text),
      Key.toJson table.key, .array (table.rules.map Rule.toJson),
      .array (table.rows.map Row.toJson)]

/-- The table that JSON stands for. -/
def ofJson? : Json → Option Table
  | .array [.text name, .text definition, .array columns, key, .array rules, .array rows] => do
      let columns ← columns.mapM text?
      let key ← Key.ofJson? key
      let rules ← rules.mapM Rule.ofJson?
      let rows ← rows.mapM Row.ofJson?
      some
        { name := name
          columns := columns
          rows := rows
          definition := some definition
          affinities := []
          key := key
          rules := rules }
  | _ => none

end Table

namespace Database

/-- The line that says that a file holds a database. -/
def imageHeader : String := "record store\n"

/-- The database as a text. -/
def toImage (database : Database) : String :=
  let tables := Json.array (database.tables.map Table.toJson)
  let indexes := Json.array (database.indexes.map .text)
  imageHeader ++ (Json.array [tables, indexes]).toText ++ "\n"

/-- The database that a text stands for. -/
def ofImage? (text : String) : Option Database :=
  let header := imageHeader.toList
  if header.isPrefixOf text.toList then
    match Json.read (String.ofList (text.toList.drop header.length)) with
    | .ok (.array [.array tables, .array indexes]) => do
        some ⟨← tables.mapM Table.ofJson?, ← indexes.mapM Table.text?⟩
    | _ => none
  else
    none

end Database

end RecordStore
