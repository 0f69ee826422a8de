import RecordStore.Field
import RecordStore.Sql.Condition

/-!
# Statements of SQL

The six statements that a storage runs on its table.  Names stand in the
text as they are, since they have been checked as identifiers before; values
never do, they are bound to the placeholders in the order of `parameters`.
-/

namespace RecordStore.Sql

/-- How many placeholders a text has. -/
def marks (text : String) : Nat :=
  text.toList.count '?'

/-- A statement with operands of some type. -/
inductive Statement (α : Type) where
  | createTable (table : String) (columns : List String)
  | insert (table : String) (assignments : List (String × α))
  | update (table : String) (assignments : List (String × α)) (id : α)
  | select (table : String) (condition : Option (Condition α))
  | count (table : String) (condition : Option (Condition α))
  | delete (table : String) (condition : Option (Condition α))
  deriving DecidableEq, Repr

namespace Statement

variable {α : Type}

/-- What stands before the condition of a statement on rows. -/
def selectHead (table : String) : String :=
  s!"SELECT {Field.rowIdName}, * FROM {table}"

/-- What stands before the condition of a count. -/
def countHead (table : String) : String :=
  s!"SELECT count(*) FROM {table}"

/-- What stands before the condition of a removal. -/
def deleteHead (table : String) : String :=
  s!"DELETE FROM {table}"

/-- The keyword between the head of a statement and its condition. -/
def whereKeyword : String := " WHERE "

/-- A head, the condition if there is one, and the terminator. -/
def withCondition (head : String) (condition : Option (Condition α)) : String :=
  match condition with
  | none => head ++ ";"
  | some condition => head ++ whereKeyword ++ condition.text ++ ";"

/-- Names with commas between them. -/
def listNames (names : List String) : String :=
  ", ".intercalate names

/-- The statement by which a table is remembered. -/
def definition (table : String) (columns : List String) : String :=
  s!"CREATE TABLE {table} ({listNames columns})"

/-- The text of a statement. -/
def text : Statement α → String
  | createTable table columns =>
      s!"CREATE TABLE IF NOT EXISTS {table} ({listNames columns});"
  | insert table [] => s!"INSERT INTO {table} DEFAULT VALUES;"
  | insert table (first :: rest) =>
      let names := (first :: rest).map Prod.fst
      let marks := String.ofList (Condition.placeholders names.length)
      s!"INSERT INTO {table} ({listNames names}) VALUES ({marks});"
  | update table assignments _ =>
      let settings := listNames (assignments.map fun entry => entry.1 ++ " = ?")
      s!"UPDATE {table} SET {settings} WHERE {Field.rowIdName} = ?;"
  | select table condition => withCondition (selectHead table) condition
  | count table condition => withCondition (countHead table) condition
  | delete table condition => withCondition (deleteHead table) condition

/-- The operands of a condition that may be missing. -/
def conditionOperands (condition : Option (Condition α)) : List α :=
  match condition with
  | none => []
  | some condition => condition.operands

/-- The values bound to the placeholders, from left to right. -/
def parameters : Statement α → List α
  | createTable _ _ => []
  | insert _ assignments => assignments.map Prod.snd
  | update _ assignments id => assignments.map Prod.snd ++ [id]
  | select _ condition => conditionOperands condition
  | count _ condition => conditionOperands condition
  | delete _ condition => conditionOperands condition

end Statement

end RecordStore.Sql
