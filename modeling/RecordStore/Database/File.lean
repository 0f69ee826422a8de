import RecordStore.Database.Basic
import RecordStore.Database.Definition

/-!
# Files with databases

A file with a database consists of pages of one size.  The first page begins
with a header and lists the tables and indexes, each with the number of the
page on which it starts; that of a table holds its rows.  A row is kept as its
id, the kinds of its cells and their contents.

Only databases are understood whose tables have a page each, and whose
definitions say nothing but what a table of the model can have.
-/

namespace RecordStore.DatabaseFile

/-! ## Numbers -/

/-- The number that bytes stand for, the most significant one first. -/
def number (bytes : List UInt8) : Nat :=
  bytes.foldl (fun value byte => 256 * value + byte.toNat) 0

/-- The number that bytes stand for, whose first bit is its sign. -/
def signedNumber (bytes : List UInt8) : Int :=
  let value : Int := number bytes
  let bound : Int := Nat.pow 256 bytes.length
  if bound ≤ 2 * value then value - bound else value

/-- The bytes from an offset on, as many as are asked for. -/
def slice? (bytes : List UInt8) (offset length : Nat) : Option (List UInt8) :=
  let found := (bytes.drop offset).take length
  if found.length = length then some found else none

/-- The number at an offset. -/
def numberAt? (bytes : List UInt8) (offset length : Nat) : Option Nat :=
  (slice? bytes offset length).map number

/--
Reads a number of variable length, with the bytes that it may still have and
what it has come to.  A byte goes on if its first bit is set; the ninth is the
last one, and counts as a whole.
-/
def readVariable : Nat → Nat → List UInt8 → Option (Nat × List UInt8)
  | 0, _, _ => none
  | _, _, [] => none
  | 1, value, byte :: rest => some (256 * value + byte.toNat, rest)
  | bound + 2, value, byte :: rest =>
      if byte < 0x80 then
        some (128 * value + byte.toNat, rest)
      else
        readVariable (bound + 1) (128 * value + (byte.toNat - 128)) rest

/-- How many bytes a number of variable length may have. -/
def maximalVariable : Nat := 9

/-! ## Rows -/

/-- The number of bytes of whole numbers of the kinds from 1 on. -/
def wholeLengths : List Nat := [1, 2, 3, 4, 6, 8]

/-- Reads a cell of a kind. -/
def readCell (kind : Nat) (bytes : List UInt8) : Option (Cell × List UInt8) :=
  match kind with
  | 0 => some (.null, bytes)
  | 7 => (slice? bytes 0 8).map fun bits => (.real ⟨UInt64.ofNat (number bits)⟩, bytes.drop 8)
  | 8 => some (.integer 0, bytes)
  | 9 => some (.integer 1, bytes)
  | kind =>
      match wholeLengths[kind - 1]? with
      | some length =>
          (slice? bytes 0 length).map fun digits =>
            (.integer (Int64.ofInt (signedNumber digits)), bytes.drop length)
      | none =>
          if kind < 12 then
            none
          else
            let length := (kind - 12) / 2
            (slice? bytes 0 length).map fun content =>
              (if kind % 2 = 0 then .blob content else .text content, bytes.drop length)

/-- Reads cells of the kinds that are listed at the front of a row. -/
def readCells : Nat → List UInt8 → List UInt8 → Option (List Cell)
  | 0, _, _ => none
  | _, [], _ => some []
  | bound + 1, kinds, bytes => do
      let (kind, kinds) ← readVariable maximalVariable 0 kinds
      let (cell, bytes) ← readCell kind bytes
      let others ← readCells bound kinds bytes
      some (cell :: others)

/-- Reads the row that starts at an offset of a page. -/
def readRow (page : List UInt8) (offset : Nat) : Option Row := do
  let (length, rest) ← readVariable maximalVariable 0 (page.drop offset)
  let (id, rest) ← readVariable maximalVariable 0 rest
  let content ← slice? rest 0 length
  let (front, _) ← readVariable maximalVariable 0 content
  let kinds ← (readVariable maximalVariable 0 (content.take front)).map Prod.snd
  let cells ← readCells (front + 1) kinds (content.drop front)
  some ⟨Int64.ofNat id, cells⟩

/-- The kind of a page that holds rows of a table. -/
def leafKind : Nat := 13

/-- Reads the rows of a page, whose own header stands at an offset. -/
def readRows (page : List UInt8) (offset : Nat) : Option (List Row) := do
  let kind ← numberAt? page offset 1
  let count ← numberAt? page (offset + 3) 2
  if kind = leafKind then
    (List.range count).mapM fun index => do
      let place ← numberAt? page (offset + 8 + 2 * index) 2
      readRow page place
  else
    none

/-! ## Tables -/

/-- The ids of rows ascend. -/
def ascend : List Row → Bool
  | first :: second :: rest => first.id < second.id && ascend (second :: rest)
  | _ => true

/-- The table with a definition and the rows of a page. -/
def table? (name sql : String) (page : List UInt8) (indexCount : Nat) : Option Table := do
  let definition ← Definition.read? name sql
  let rows ← readRows page 0
  let table : Table :=
    { name := name
      columns := definition.columns
      rows := []
      definition := some sql
      affinities := []
      key := definition.key
      rules := definition.rules }
  let width := definition.columns.length
  let filled := rows.map fun row =>
    table.numbered { row with cells := (row.cells ++ List.replicate width Cell.null).take width }
  if ascend rows && definition.indexCount = indexCount then
    some { table with rows := filled }
  else
    none

/-- The text in a cell. -/
def text? : Cell → Option String
  | .text bytes => (Utf8.decode bytes).toOption
  | _ => none

/-- An entry of the list of tables and indexes; what the database makes itself has no statement. -/
structure Listed where
  isTable : Bool
  name : String
  table : String
  page : Int64
  sql : Option String
  deriving DecidableEq, Repr

/-- Reads an entry of the list of tables and indexes. -/
def readListed (row : Row) : Option Listed :=
  match row.cells with
  | [kind, name, table, .integer page, sql] => do
      let kind ← text? kind
      let listed : Listed := ⟨kind == "table", ← text? name, ← text? table, page, text? sql⟩
      if kind = "table" || kind = "index" then some listed else none
  | _ => none

/-- The database with some pages, the first of which lists what is in it. -/
def readPages (pages : List (List UInt8)) : Option Database := do
  let first ← pages[0]?
  let rows ← readRows first 100
  let listed ← rows.mapM readListed
  let (tables, indexes) := listed.partition Listed.isTable
  let read ← tables.mapM fun entry => do
    let page ← pages[entry.page.toNatClampNeg - 1]?
    let sql ← entry.sql
    table? entry.name sql page
      (indexes.countP fun index => index.sql.isNone && index.table == entry.name)
  some ⟨read, indexes.map Listed.name⟩

/-! ## Files -/

/-- What every file with a database begins with. -/
def title : String := "SQLite format 3\x00"

/-- The pages of a file. -/
def pages (bytes : List UInt8) (size : Nat) : List (List UInt8) :=
  (List.range (bytes.length / size)).map fun index => (bytes.drop (size * index)).take size

/-- The header of a file says that it is of the usual kind: no log, no free pages, UTF-8 texts. -/
def isUsual (bytes : List UInt8) (size : Nat) : Bool :=
  512 ≤ size && bytes.length % size == 0 &&
    slice? bytes 18 6 == some [1, 1, 0, 64, 32, 32] &&
      numberAt? bytes 28 4 == some (bytes.length / size) &&
        numberAt? bytes 32 8 == some 0 && numberAt? bytes 52 4 == some 0 &&
          numberAt? bytes 56 4 == some 1

/-- The database in a file with a text. -/
def read? (text : String) : Option Database :=
  let bytes := Utf8.encode text
  if (Utf8.encode title).isPrefixOf bytes then do
    let size ← numberAt? bytes 16 2
    if isUsual bytes size then readPages (pages bytes size) else none
  else
    none

end RecordStore.DatabaseFile
