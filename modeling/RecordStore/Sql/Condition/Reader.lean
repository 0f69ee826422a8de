import RecordStore.Identifier
import RecordStore.Sql.Condition

/-!
# Reading conditions

The text of a condition is read as SQL reads it.  Comparisons, membership
and null tests bind tighter than `AND`, and `AND` binds tighter than `OR`;
both join from the left.  A keyword is no name of a column, in whatever
letter case it stands.  Placeholders take the parameters from left to right.
-/

namespace RecordStore.Sql.Condition

/-- The words and marks of a condition's text. -/
inductive Lexeme where
  | word (letters : List Char)
  | comparison (comparison : Comparison)
  | placeholder
  | comma
  | opening
  | closing
  deriving DecidableEq, Repr

namespace Lexeme

/-- A character of a word. -/
def isWord (c : Char) : Bool :=
  c.isAlphanum || c == '_'

/-- Puts a character in front of lexemes; it belongs to the word that they start with, if any. -/
def consWord (c : Char) (next : Option Char) (lexemes : List Lexeme) : List Lexeme :=
  match lexemes with
  | word letters :: rest =>
      if next.any isWord then word (c :: letters) :: rest else word [c] :: lexemes
  | _ => word [c] :: lexemes

/-- The lexemes of a text; a character that starts none has none. -/
def read : List Char → Option (List Lexeme)
  | [] => some []
  | ' ' :: rest => read rest
  | '?' :: rest => (read rest).map (placeholder :: ·)
  | ',' :: rest => (read rest).map (comma :: ·)
  | '(' :: rest => (read rest).map (opening :: ·)
  | ')' :: rest => (read rest).map (closing :: ·)
  | '=' :: rest => (read rest).map (comparison .equal :: ·)
  | '<' :: '>' :: rest => (read rest).map (comparison .notEqual :: ·)
  | '<' :: '=' :: rest => (read rest).map (comparison .lessOrEqual :: ·)
  | '<' :: rest => (read rest).map (comparison .less :: ·)
  | '>' :: '=' :: rest => (read rest).map (comparison .greaterOrEqual :: ·)
  | '>' :: rest => (read rest).map (comparison .greater :: ·)
  | c :: rest =>
      if isWord c then (read rest).map (consWord c rest.head?) else none

/-- A keyword. -/
def keyword (name : String) : Lexeme :=
  word name.toList

/-- The letters of a word can name a column: no digit comes first, and they spell no keyword. -/
def isName (letters : List Char) : Bool :=
  letters.head?.any Identifier.isStart &&
    !Keyword.table.contains (Text.upper (String.ofList letters))

end Lexeme

open Lexeme in
/-- Reads the placeholders of a set up to the closing parenthesis. -/
def readMembers : List Lexeme → Option (List Unit × List Lexeme)
  | placeholder :: closing :: rest => some ([()], rest)
  | placeholder :: comma :: rest =>
      (readMembers rest).map fun parts => (() :: parts.1, parts.2)
  | _ => none

open Lexeme in
/-- Reads what is asked of a column. -/
def readTest (column : String) : List Lexeme → Option (Condition Unit × List Lexeme)
  | .comparison symbol :: placeholder :: rest => some (compare column symbol (), rest)
  | word letters :: rest =>
      if word letters = keyword "IN" then
        match rest with
        | opening :: rest =>
            (readMembers rest).map fun parts => (member column false parts.1, parts.2)
        | _ => none
      else if word letters = keyword "NOT" then
        match rest with
        | second :: opening :: rest =>
            if second = keyword "IN" then
              (readMembers rest).map fun parts => (member column true parts.1, parts.2)
            else
              none
        | _ => none
      else if word letters = keyword "IS" then
        match rest with
        | second :: rest =>
            if second = keyword "NULL" then
              some (isNull column false, rest)
            else if second = keyword "NOT" && rest.head? = some (keyword "NULL") then
              some (isNull column true, rest.drop 1)
            else
              none
        | [] => none
      else
        none
  | _ => none

mutual

/-- Reads a test of a column, or a condition between parentheses. -/
def readFactor : Nat → List Lexeme → Option (Condition Unit × List Lexeme)
  | 0, _ => none
  | bound + 1, lexemes =>
      match lexemes with
      | .opening :: rest => do
          let (inner, rest) ← readSum bound rest
          match rest with
          | .closing :: rest => some (paren inner, rest)
          | _ => none
      | .word letters :: rest =>
          if Lexeme.isName letters then
            readTest (String.ofList letters) rest
          else
            none
      | _ => none

/-- Reads further conditions joined by `AND`. -/
def readProductRest :
    Nat → Condition Unit → List Lexeme → Option (Condition Unit × List Lexeme)
  | 0, _, _ => none
  | bound + 1, left, lexemes =>
      if lexemes.head? = some (Lexeme.keyword Junction.and.keyword) then do
        let (right, rest) ← readFactor bound (lexemes.drop 1)
        readProductRest bound (and left right) rest
      else
        some (left, lexemes)

/-- Reads conditions joined by `AND`. -/
def readProduct : Nat → List Lexeme → Option (Condition Unit × List Lexeme)
  | 0, _ => none
  | bound + 1, lexemes => do
      let (first, rest) ← readFactor bound lexemes
      readProductRest bound first rest

/-- Reads further conditions joined by `OR`. -/
def readSumRest :
    Nat → Condition Unit → List Lexeme → Option (Condition Unit × List Lexeme)
  | 0, _, _ => none
  | bound + 1, left, lexemes =>
      if lexemes.head? = some (Lexeme.keyword Junction.or.keyword) then do
        let (right, rest) ← readProduct bound (lexemes.drop 1)
        readSumRest bound (or left right) rest
      else
        some (left, lexemes)

/-- Reads conditions joined by `OR`. -/
def readSum : Nat → List Lexeme → Option (Condition Unit × List Lexeme)
  | 0, _ => none
  | bound + 1, lexemes => do
      let (first, rest) ← readProduct bound lexemes
      readSumRest bound first rest

end

/-- The condition that a text stands for. -/
def read? (text : String) : Option (Condition Unit) := do
  let lexemes ← Lexeme.read text.toList
  let (condition, rest) ← readSum (4 * lexemes.length + 4) lexemes
  if rest.isEmpty then some condition else none

/-! ## Binding parameters -/

variable {α : Type}

/-- The condition with operands taken from a list, and the operands that are left. -/
def take? : Condition Unit → List α → Option (Condition α × List α)
  | compare column comparison _, operands =>
      match operands with
      | [] => none
      | first :: rest => some (compare column comparison first, rest)
  | member column negated marks, operands =>
      if marks.length ≤ operands.length then
        some (member column negated (operands.take marks.length),
          operands.drop marks.length)
      else
        none
  | isNull column negated, operands => some (isNull column negated, operands)
  | and left right, operands => do
      let (left, rest) ← left.take? operands
      let (right, rest) ← right.take? rest
      some (and left right, rest)
  | or left right, operands => do
      let (left, rest) ← left.take? operands
      let (right, rest) ← right.take? rest
      some (or left right, rest)
  | paren inner, operands => do
      let (inner, rest) ← inner.take? operands
      some (paren inner, rest)

/-- The condition with as many operands as it has placeholders. -/
def bind? (condition : Condition Unit) (operands : List α) : Option (Condition α) :=
  match condition.take? operands with
  | some (bound, []) => some bound
  | _ => none

/--
The outcome of a text as the condition of a statement, with its placeholders
bound to parameters.  Without any text nothing is restricted, and nothing
can be bound.
-/
def evalText?
    (interpretation : Interpretation α)
    (text : String)
    (parameters : List α) :
    Option Truth :=
  if text.isEmpty && parameters.isEmpty then
    some .holds
  else do
    let condition ← read? text
    let bound ← condition.bind? parameters
    some (bound.eval interpretation)

end RecordStore.Sql.Condition
