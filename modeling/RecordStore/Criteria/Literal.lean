import RecordStore.Criteria.Filter

/-!
# Literals of filters

The literals of a filter are the scalars in it that fields are compared with:
bare values, operands of comparisons and members of sets, in the branches of
groups as well.  Null is no literal, since it stands for a test rather than
an operand, and neither is the flag of the test for null.  This module lists
the literals of a filter from left to right, and replaces them.
-/

namespace RecordStore

/-- A scalar of JSON that is not null. -/
inductive Literal where
  | boolean (flag : Bool)
  | integer (number : Int)
  | real (number : Double)
  | text (content : String)
  deriving DecidableEq, Repr

namespace Literal

/-- The literal as JSON. -/
def toJson : Literal → Json
  | boolean flag => .boolean flag
  | integer number => .integer number
  | real number => .real number
  | text content => .text content

/-- The literal that a JSON value is, if it is one. -/
def ofJson? : Json → Option Literal
  | .boolean flag => some (boolean flag)
  | .integer number => some (integer number)
  | .real number => some (real number)
  | .text content => some (text content)
  | _ => none

/-- The value that a placeholder is bound to for the literal. -/
def value : Literal → Value
  | boolean flag => .boolean flag
  | integer number => .ofInt number
  | real number => .real number
  | text content => .text content

@[simp]
theorem ofJson?_toJson (literal : Literal) : ofJson? literal.toJson = some literal := by
  cases literal <;> rfl

@[simp]
theorem value_ofJson? (literal : Literal) :
    Value.ofJson? literal.toJson = some literal.value := by
  cases literal <;> rfl

end Literal

namespace Filter

/-! ## Listing literals -/

/-- The literals of an operand; the flag of the test for null is none. -/
def operandLiterals (key : String) (operand : Json) : List Literal :=
  if key = Operator.nullKey || key = Operator.shortNullKey then
    []
  else
    match operand with
    | .array items => items.filterMap Literal.ofJson?
    | scalar => (Literal.ofJson? scalar).toList

mutual

/-- The literals of the entries of an object. -/
def membersLiterals : List (String × Json) → List Literal
  | [] => []
  | (_, value) :: rest => entryLiterals value ++ membersLiterals rest

/-- The literals of the value of an entry. -/
def entryLiterals : Json → List Literal
  | .object descriptor =>
      descriptor.flatMap fun entry => operandLiterals entry.1 entry.2
  | .array items => branchesLiterals items
  | scalar => (Literal.ofJson? scalar).toList

/-- The literals of the branches of a group. -/
def branchesLiterals : List Json → List Literal
  | [] => []
  | .object members :: rest => membersLiterals members ++ branchesLiterals rest
  | _ :: rest => branchesLiterals rest

end

/-- The literals of a filter; an identity is the operand of an equality. -/
def literals : Filter → List Literal
  | all => []
  | object members => membersLiterals members
  | identity id => [.integer id.toInt]

/-! ## Replacing literals -/

/-- The scalar with its literal replaced; null stays. -/
def replaceLiteral (replace : Literal → Literal) (scalar : Json) : Json :=
  match Literal.ofJson? scalar with
  | some literal => (replace literal).toJson
  | none => scalar

/-- The operand with its literals replaced. -/
def replaceOperand (replace : Literal → Literal) (key : String) (operand : Json) : Json :=
  if key = Operator.nullKey || key = Operator.shortNullKey then
    operand
  else
    match operand with
    | .array items => .array (items.map (replaceLiteral replace))
    | scalar => replaceLiteral replace scalar

mutual

/-- The entries of an object with their literals replaced. -/
def replaceMembers (replace : Literal → Literal) :
    List (String × Json) → List (String × Json)
  | [] => []
  | (key, value) :: rest =>
      (key, replaceEntry replace value) :: replaceMembers replace rest

/-- The value of an entry with its literals replaced. -/
def replaceEntry (replace : Literal → Literal) : Json → Json
  | .object descriptor =>
      .object
        (descriptor.map fun entry => (entry.1, replaceOperand replace entry.1 entry.2))
  | .array items => .array (replaceBranches replace items)
  | scalar => replaceLiteral replace scalar

/-- The branches of a group with their literals replaced. -/
def replaceBranches (replace : Literal → Literal) : List Json → List Json
  | [] => []
  | .object members :: rest =>
      .object (replaceMembers replace members) :: replaceBranches replace rest
  | other :: rest => other :: replaceBranches replace rest

end

/--
The filter with its literals replaced.

An identity is written as the equality that it stands for, since its
replacement need not be an identity.
-/
def replaceLiterals (replace : Literal → Literal) : Filter → Filter
  | all => all
  | object members => object (replaceMembers replace members)
  | identity id =>
      object [(Field.identityName, (replace (.integer id.toInt)).toJson)]

end Filter

end RecordStore
