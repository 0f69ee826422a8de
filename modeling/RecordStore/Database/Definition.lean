import RecordStore.Database.Table
import RecordStore.Sql.Condition.Reader

/-!
# Definitions of tables

A database remembers each table by the text of the statement that has created
it.  Such a text lists columns, and what is demanded of them: that they are not
null, that no two rows agree in them, or that one of them is another name of
the row id.  Each demand may say what becomes of a row that does not meet it.
Types, defaults and other demands are not understood.
-/

namespace RecordStore

open Sql.Condition (Lexeme)

/-- What a statement says of a table that it creates. -/
structure Definition where
  columns : List String
  key : Option Key
  rules : List Rule
  deriving DecidableEq, Repr

namespace Definition

/-- The lexeme is a keyword, in any letter case. -/
def spells (keyword : String) : Lexeme → Bool
  | .word letters => Text.upper (String.ofList letters) == keyword
  | _ => false

/-- What comes after some keywords, if there are these. -/
def strip? : List String → List Lexeme → Option (List Lexeme)
  | [], lexemes => some lexemes
  | _ :: _, [] => none
  | keyword :: others, lexeme :: rest =>
      if spells keyword lexeme then strip? others rest else none

/-- The words for what becomes of a change that would break a rule. -/
def resolutions : List (String × Resolution) :=
  [("ROLLBACK", .rollback), ("ABORT", .abort), ("IGNORE", .ignore), ("REPLACE", .replace)]

/-- Reads what becomes of a change that would break a rule; unless it is said, the change fails. -/
def readResolution (lexemes : List Lexeme) : Option (Resolution × List Lexeme) :=
  match strip? ["ON", "CONFLICT"] lexemes with
  | none => some (.abort, lexemes)
  | some [] => none
  | some (word :: rest) =>
      (resolutions.find? fun entry => spells entry.1 word).map fun entry => (entry.2, rest)

/-- The definition with a rule; of those about agreement the last one is looked at first. -/
def addRule (definition : Definition) (rule : Rule) : Definition :=
  match rule with
  | .present _ _ => { definition with rules := definition.rules ++ [rule] }
  | .distinct _ _ => { definition with rules := rule :: definition.rules }

/-- Reads what is demanded of the last column. -/
def readDemands : Nat → Definition → List Lexeme → Option (Definition × List Lexeme)
  | 0, _, _ => none
  | bound + 1, definition, lexemes =>
      let column := definition.columns.length - 1
      match strip? ["NOT", "NULL"] lexemes, strip? ["UNIQUE"] lexemes,
          strip? ["INTEGER", "PRIMARY", "KEY"] lexemes with
      | some rest, _, _ => do
          let (resolution, rest) ← readResolution rest
          readDemands bound (definition.addRule (.present column resolution)) rest
      | none, some rest, _ => do
          let (resolution, rest) ← readResolution rest
          readDemands bound (definition.addRule (.distinct [column] resolution)) rest
      | none, none, some rest => do
          let (resolution, rest) ← readResolution rest
          if definition.key.isSome then
            none
          else
            readDemands bound { definition with key := some ⟨column, resolution⟩ } rest
      | none, none, none => some (definition, lexemes)

/-- Reads names of columns up to the closing parenthesis. -/
def readPlaces (columns : List String) : List Lexeme → Option (List Nat × List Lexeme)
  | .word letters :: .closing :: rest =>
      (columns.findIdx? (Text.sameName (String.ofList letters))).map fun index => ([index], rest)
  | .word letters :: .comma :: rest => do
      let index ← columns.findIdx? (Text.sameName (String.ofList letters))
      let (others, rest) ← readPlaces columns rest
      some (index :: others, rest)
  | _ => none

/-- Reads columns and rules up to the last closing parenthesis. -/
def readItems : Nat → Definition → List Lexeme → Option Definition
  | 0, _, _ => none
  | bound + 1, definition, lexemes => do
      let (next, rest) ←
        match strip? ["UNIQUE"] lexemes, lexemes with
        | some (.opening :: rest), _ => do
            let (columns, rest) ← readPlaces definition.columns rest
            let (resolution, rest) ← readResolution rest
            some (definition.addRule (.distinct columns resolution), rest)
        | _, .word letters :: rest =>
            let name := String.ofList letters
            if Lexeme.isName letters && !definition.columns.any (Text.sameName name) then
              readDemands bound { definition with columns := definition.columns ++ [name] } rest
            else
              none
        | _, _ => none
      match rest with
      | [.closing] => some next
      | .comma :: rest => readItems bound next rest
      | _ => none

/-- The definition that a text gives of the table with a name. -/
def read? (name text : String) : Option Definition := do
  let lexemes ← Lexeme.read text.toList
  match ← strip? ["CREATE", "TABLE"] lexemes with
  | .word letters :: .opening :: rest =>
      if String.ofList letters = name then readItems (rest.length + 1) ⟨[], none, []⟩ rest
      else none
  | _ => none

/-- How many rules are about agreement, each of which has an index. -/
def indexCount (definition : Definition) : Nat :=
  definition.rules.countP fun rule =>
    match rule with
    | .distinct _ _ => true
    | .present _ _ => false

end Definition

end RecordStore
