import RecordStore.Identifier

/-!
# Fields

A filter names the fields of a record.  The field `_id` is the identity of a
stored record, which a table keeps as its row id; every other field is a
column of the same name.
-/

namespace RecordStore

/-- A field that a filter can test. -/
inductive Field where
  | identity
  | column (name : String)
  deriving DecidableEq, Repr

namespace Field

/-- The name that callers use for the identity. -/
def identityName : String := "_id"

/-- The name of the row id in SQL text. -/
def rowIdName : String := "rowid"

/-- The names that SQL takes for the row id. -/
def rowIdAliases : List String :=
  [rowIdName, "oid", "_rowid_"]

/-- The name stands for the row id, in any letter case. -/
def isRowIdAlias (name : String) : Bool :=
  rowIdAliases.any (Text.sameName name)

/-- The field that a caller's name stands for; the name of a column must be an identifier. -/
def parse (name : String) : Except IdentifierFault Field :=
  if name = identityName then
    .ok identity
  else do
    Identifier.check name
    .ok (column name)

/-- The name that callers use. -/
def name : Field → String
  | identity => identityName
  | column name => name

/-- The name that stands in SQL text. -/
def sqlName : Field → String
  | identity => rowIdName
  | column name => name

end Field

end RecordStore
