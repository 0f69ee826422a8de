import RecordStore.Text.Case

/-!
# Reserved words of SQL

A reserved word cannot stand unquoted where a name is expected.  The table
is sorted, and a name is looked up in it by halving the interval in which it
can lie, after its letters have been put in upper case.
-/

namespace RecordStore.Keyword

/-- The reserved words in ascending order. -/
def table : Array String := #[
  "ABORT", "ACTION", "ADD", "AFTER", "ALL", "ALTER", "ALWAYS", "ANALYZE",
  "AND", "AS", "ASC", "ATTACH", "AUTOINCREMENT", "BEFORE", "BEGIN",
  "BETWEEN", "BY", "CASCADE", "CASE", "CAST", "CHECK", "COLLATE", "COLUMN",
  "COMMIT", "CONFLICT", "CONSTRAINT", "CREATE", "CROSS", "CURRENT",
  "CURRENT_DATE", "CURRENT_TIME", "CURRENT_TIMESTAMP", "DATABASE",
  "DEFAULT", "DEFERRABLE", "DEFERRED", "DELETE", "DESC", "DETACH",
  "DISTINCT", "DO", "DROP", "EACH", "ELSE", "END", "ESCAPE", "EXCEPT",
  "EXCLUDE", "EXCLUSIVE", "EXISTS", "EXPLAIN", "FAIL", "FILTER", "FIRST",
  "FOLLOWING", "FOR", "FOREIGN", "FROM", "FULL", "GENERATED", "GLOB",
  "GROUP", "GROUPS", "HAVING", "IF", "IGNORE", "IMMEDIATE", "IN", "INDEX",
  "INDEXED", "INITIALLY", "INNER", "INSERT", "INSTEAD", "INTERSECT",
  "INTO", "IS", "ISNULL", "JOIN", "KEY", "LAST", "LEFT", "LIKE", "LIMIT",
  "MATCH", "MATERIALIZED", "NATURAL", "NO", "NOT", "NOTHING", "NOTNULL",
  "NULL", "NULLS", "OF", "OFFSET", "ON", "OR", "ORDER", "OTHERS", "OUTER",
  "OVER", "PARTITION", "PLAN", "PRAGMA", "PRECEDING", "PRIMARY", "QUERY",
  "RAISE", "RANGE", "RECURSIVE", "REFERENCES", "REGEXP", "REINDEX",
  "RELEASE", "RENAME", "REPLACE", "RESTRICT", "RETURNING", "RIGHT",
  "ROLLBACK", "ROW", "ROWS", "SAVEPOINT", "SELECT", "SET", "TABLE", "TEMP",
  "TEMPORARY", "THEN", "TIES", "TO", "TRANSACTION", "TRIGGER", "UNBOUNDED",
  "UNION", "UNIQUE", "UPDATE", "USING", "VACUUM", "VALUES", "VIEW",
  "VIRTUAL", "WHEN", "WHERE", "WINDOW", "WITH", "WITHOUT"]

/-- Looks for a word among the entries of a sorted table from `low` up to, not including, `high`. -/
def searchBetween
    (entries : Array String)
    (word : String)
    (low high : Nat)
    (bounded : high ≤ entries.size) :
    Bool :=
  if nonempty : low < high then
    let middle := (low + high) / 2
    have inside : middle < high := by omega
    let entry := entries[middle]
    if word = entry then
      true
    else if word < entry then
      searchBetween entries word low middle (by omega)
    else
      searchBetween entries word (middle + 1) high bounded
  else
    false
termination_by high - low

/-- The word stands in the table of reserved words, in any letter case. -/
def isReserved (word : String) : Bool :=
  searchBetween table (Text.upper word) 0 table.size (Nat.le_refl _)

end RecordStore.Keyword
