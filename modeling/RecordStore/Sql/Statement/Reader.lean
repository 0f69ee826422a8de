import RecordStore.Sql.Condition.Reader
import RecordStore.Sql.Statement

/-!
# Reading statements that change rows

The text of a statement that adds or overwrites rows is read as SQL reads it.
A new row lists columns and as many placeholders for their values, or has
nothing given.  Overwriting names columns with a placeholder each, and goes on
with a condition.  All placeholders take the parameters from left to right.
-/

namespace RecordStore.Sql

open Condition (Lexeme readMembers readSum)

/-- A statement that adds a row or overwrites some, with operands of some type. -/
inductive Change (α : Type) where
  | insert (table : String) (columns : List String) (values : List α)
  | update (table : String) (assignments : List (String × α)) (condition : Condition α)
  deriving DecidableEq, Repr

namespace Change

open Condition.Lexeme in
/-- Reads names up to the closing parenthesis. -/
def readNames : List Lexeme → Option (List String × List Lexeme)
  | word letters :: closing :: rest =>
      if isName letters then some ([String.ofList letters], rest) else none
  | word letters :: comma :: rest =>
      if isName letters then
        (readNames rest).map fun parts => (String.ofList letters :: parts.1, parts.2)
      else
        none
  | _ => none

open Condition.Lexeme in
/-- Reads columns that are set to placeholders. -/
def readAssignments : List Lexeme → Option (List (String × Unit) × List Lexeme)
  | word letters :: .comparison .equal :: placeholder :: comma :: rest =>
      if isName letters then
        (readAssignments rest).map fun parts => ((String.ofList letters, ()) :: parts.1, parts.2)
      else
        none
  | word letters :: .comparison .equal :: placeholder :: rest =>
      if isName letters then some ([(String.ofList letters, ())], rest) else none
  | _ => none

open Condition.Lexeme in
/-- Reads what a new row is given. -/
def readRow (table : String) : List Lexeme → Option (Change Unit)
  | opening :: rest => do
      let (columns, rest) ← readNames rest
      match rest with
      | keyword :: opening :: rest =>
          let (values, rest) ← readMembers rest
          if keyword = .keyword "VALUES" && rest.isEmpty then
            some (.insert table columns values)
          else
            none
      | _ => none
  | lexemes =>
      if lexemes = [.keyword "DEFAULT", .keyword "VALUES"] then some (.insert table [] []) else none

/-- Reads what is overwritten, and where. -/
def readSettings (table : String) (lexemes : List Lexeme) : Option (Change Unit) := do
  let (assignments, rest) ← readAssignments lexemes
  if rest.head? = some (.keyword "WHERE") then
    let (condition, rest) ← readSum (4 * rest.length + 4) (rest.drop 1)
    if rest.isEmpty then some (.update table assignments condition) else none
  else
    none

open Condition.Lexeme in
/-- Reads a statement from its lexemes. -/
def readLexemes : List Lexeme → Option (Change Unit)
  | first :: word letters :: rest =>
      if first = .keyword "INSERT" && word letters = .keyword "INTO" then
        match rest with
        | word table :: rest => if isName table then readRow (String.ofList table) rest else none
        | _ => none
      else if first = .keyword "UPDATE" && isName letters && rest.head? = some (.keyword "SET") then
        readSettings (String.ofList letters) (rest.drop 1)
      else
        none
  | _ => none

/-- The statement that a text stands for, up to its terminator. -/
def read? (text : String) : Option (Change Unit) :=
  match text.toList.getLast? with
  | some ';' => (Lexeme.read text.toList.dropLast).bind readLexemes
  | _ => none

/-- The statement with as many operands as it has placeholders. -/
def bind? {α : Type} (change : Change Unit) (operands : List α) : Option (Change α) :=
  match change with
  | insert table columns marks =>
      if marks.length = operands.length then some (insert table columns operands) else none
  | update table assignments condition =>
      if assignments.length ≤ operands.length then
        let names := assignments.map Prod.fst
        (condition.bind? (operands.drop assignments.length)).map
          (update table (names.zip operands))
      else
        none

end Change

end RecordStore.Sql
