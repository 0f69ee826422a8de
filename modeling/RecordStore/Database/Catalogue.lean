import RecordStore.Database.Table

/-!
# Tables of the database itself

Besides the tables that were created, a database has some of its own: one
that lists the tables that were created, one that would list tables on
trial, of which there never are any, and functions that can be read like
tables and give no row unless they are given an argument.
-/

namespace RecordStore.Catalogue

/-- The columns of a list of tables. -/
def listColumns : List String :=
  ["type", "name", "tbl_name", "rootpage", "sql"]

/-- The list of tables with some rows. -/
def list (name : String) (rows : List Row) : Table :=
  { name := name
    columns := listColumns
    rows := rows
    definition := none
    affinities := [.texts, .texts, .texts, .numbers, .texts]
    key := none
    rules := [] }

/-- The page of a file on which the first table that was created starts. -/
def firstPage : Nat := 2

/-- A text as a cell. -/
def textCell (text : String) : Cell :=
  .text (Utf8.encode text)

/-- The row that lists the table at an index. -/
def row (table : Table) (index : Nat) : Row :=
  { id := Int64.ofNat (index + 1)
    cells :=
      [textCell "table", textCell table.name, textCell table.name,
        .integer (Int64.ofNat (firstPage + index)),
        textCell (table.definition.getD "")] }

/-- The list of the tables that were created. -/
def created (tables : List Table) : Table :=
  list "sqlite_master" (tables.zipIdx.map fun table => row table.1 table.2)

/-- The list of the tables on trial. -/
def onTrial : Table :=
  list "sqlite_temp_master" []

/-- The lists of tables under the names that they are known by. -/
def lists (tables : List Table) : List (String × Table) :=
  [("sqlite_master", created tables), ("sqlite_schema", created tables),
    ("sqlite_temp_master", onTrial), ("sqlite_temp_schema", onTrial)]

/-- The columns of what takes JSON apart. -/
def jsonColumns : List String :=
  ["key", "value", "type", "atom", "id", "parent", "fullkey", "path"]

/-- The columns of what describes the columns of a table. -/
def descriptionColumns : List String :=
  ["cid", "name", "type", "notnull", "dflt_value", "pk"]

/-- The columns of what describes the columns of an index. -/
def indexColumns : List String :=
  ["seqno", "cid", "name"]

/-- The functions that can be read like tables, with their columns. -/
def functions : List (String × List String) :=
  [("json_each", jsonColumns), ("json_tree", jsonColumns),
    ("fts3tokenize", ["input", "token", "start", "end", "position"]),
    ("pragma_table_info", descriptionColumns),
    ("pragma_table_xinfo", descriptionColumns ++ ["hidden"]),
    ("pragma_index_info", indexColumns),
    ("pragma_index_xinfo", indexColumns ++ ["desc", "coll", "key"]),
    ("pragma_index_list", ["seq", "name", "unique", "origin", "partial"]),
    ("pragma_foreign_key_list",
      ["id", "seq", "table", "from", "to", "on_update", "on_delete", "match"]),
    ("pragma_foreign_key_check", ["table", "rowid", "parent", "fkid"])]

/-- A function as a table. -/
def function (name : String) (columns : List String) : Table :=
  { name := name
    columns := columns
    rows := []
    definition := none
    affinities := []
    key := none
    rules := [] }

/-- The table that the database itself has under a name, besides those that were created. -/
def find? (tables : List Table) (name : String) : Option Table :=
  let all := lists tables ++ functions.map fun entry => (entry.1, function entry.1 entry.2)
  (all.find? fun entry => Text.sameName entry.1 name).map Prod.snd

end RecordStore.Catalogue
