import RecordStore.Identifier.Keyword

/-!
# Identifiers

A name that is written unquoted into SQL text has to be safe there.  An
identifier has 1 to 64 bytes, starts with an ASCII letter or an underscore,
goes on with ASCII letters, digits and underscores, and is no reserved word.
`Identifier.check` names the first of these rules that a name breaks.
-/

namespace RecordStore

/-- The first rule of identifiers that a name breaks. -/
inductive IdentifierFault where
  | empty
  | tooLong (name : String)
  | badStart (name : String)
  | badCharacter (name : String) (character : Char)
  | reserved (name : String)
  deriving DecidableEq, Repr

namespace Identifier

/-- The greatest number of bytes in an identifier. -/
def maximalLength : Nat := 64

/-- A character that may start an identifier. -/
def isStart (c : Char) : Bool :=
  c.isAlpha || c == '_'

/-- A character that may follow the first one. -/
def isContinuation (c : Char) : Bool :=
  c.isAlphanum || c == '_'

/-- Accepts a name that is an identifier, and names the first broken rule of any other. -/
def check (name : String) : Except IdentifierFault Unit :=
  match name.toList with
  | [] => .error .empty
  | first :: rest =>
      if maximalLength < name.utf8ByteSize then
        .error (.tooLong name)
      else if !isStart first then
        .error (.badStart name)
      else
        match rest.find? fun c => !isContinuation c with
        | some character => .error (.badCharacter name character)
        | none =>
            if Keyword.isReserved name then
              .error (.reserved name)
            else
              .ok ()

end Identifier

namespace IdentifierFault

/-- What the fault says to a reader. -/
def message : IdentifierFault → String
  | empty => "field name must not be empty"
  | tooLong name =>
      s!"field name '{name}' exceeds {Identifier.maximalLength} characters"
  | badStart name =>
      s!"field name '{name}' must start with a letter or underscore"
  | badCharacter name character =>
      s!"field name '{name}' contains unsupported character '{character}'"
  | reserved name => s!"field name '{name}' is a reserved SQL keyword"

end IdentifierFault

end RecordStore
