import RecordStore.Value

/-!
# Operators

A condition applies an operator to one field.  There are the six comparisons
with a value, the two membership tests in a set of values, and the test for
null.  Comparing with null never holds in SQL, so `normalize` turns equality
with null into the test for null and refuses null everywhere else.
-/

namespace RecordStore

/-- The six ways of comparing a field with a value. -/
inductive Comparison where
  | equal
  | notEqual
  | greater
  | greaterOrEqual
  | less
  | lessOrEqual
  deriving DecidableEq, Repr

namespace Comparison

/-- The descriptor key of a comparison. -/
def key : Comparison → String
  | equal => "equals"
  | notEqual => "not-equals"
  | greater => "greater-than"
  | greaterOrEqual => "greater-or-equal"
  | less => "less-than"
  | lessOrEqual => "less-or-equal"

/-- The short form of the key. -/
def shortKey : Comparison → String
  | equal => "$eq"
  | notEqual => "$ne"
  | greater => "$gt"
  | greaterOrEqual => "$gte"
  | less => "$lt"
  | lessOrEqual => "$lte"

/-- The symbol in SQL text. -/
def symbol : Comparison → String
  | equal => "="
  | notEqual => "<>"
  | greater => ">"
  | greaterOrEqual => ">="
  | less => "<"
  | lessOrEqual => "<="

/-- Every comparison. -/
def all : List Comparison :=
  [equal, notEqual, greater, greaterOrEqual, less, lessOrEqual]

end Comparison

/-- What a condition asks of a field, with its operand. -/
inductive Operator where
  | compare (comparison : Comparison) (operand : Value)
  | member (negated : Bool) (members : List Value)
  | isNull (flag : Bool)
  deriving DecidableEq, Repr

/-- Why an operator or the operand written for it is refused. -/
inductive OperatorFault where
  | unknownKey (key : String)
  | scalarExpected (key : String) (operand : Json)
  | arrayExpected (key : String) (operand : Json)
  | scalarMemberExpected (key : String) (member : Json)
  | booleanExpected (key : String) (operand : Json)
  | orderingOfNull (comparison : Comparison)
  | emptySet (negated : Bool)
  | nullMember (negated : Bool)
  deriving BEq, Repr

namespace Operator

/-- The descriptor key of a membership test. -/
def memberKey (negated : Bool) : String :=
  if negated then "not-in-set" else "in-set"

/-- The short form of the key of a membership test. -/
def shortMemberKey (negated : Bool) : String :=
  if negated then "$nin" else "$in"

/-- The descriptor key of the test for null. -/
def nullKey : String := "is-null"

/-- The short form of the key of the test for null. -/
def shortNullKey : String := "$null"

/-- The descriptor key of an operator. -/
def key : Operator → String
  | compare comparison _ => comparison.key
  | member negated _ => memberKey negated
  | isNull _ => nullKey

/-- Turns equality with null into the test for null, and refuses operands without meaning in SQL. -/
def normalize : Operator → Except OperatorFault Operator
  | compare .equal .null => .ok (isNull true)
  | compare .notEqual .null => .ok (isNull false)
  | compare comparison .null => .error (.orderingOfNull comparison)
  | compare comparison operand => .ok (compare comparison operand)
  | member negated members =>
      if members.isEmpty then
        .error (.emptySet negated)
      else if members.any Value.isNull then
        .error (.nullMember negated)
      else
        .ok (member negated members)
  | isNull flag => .ok (isNull flag)

/-- What a descriptor key selects, before its operand is read. -/
inductive Selection where
  | comparison (comparison : Comparison)
  | membership (negated : Bool)
  | nullity
  deriving DecidableEq, Repr

/-- The operator that a key selects, in its long or its short form. -/
def select? (key : String) : Option Selection :=
  match Comparison.all.find? fun c => key = c.key || key = c.shortKey with
  | some comparison => some (.comparison comparison)
  | none =>
      if key = memberKey false || key = shortMemberKey false then
        some (.membership false)
      else if key = memberKey true || key = shortMemberKey true then
        some (.membership true)
      else if key = nullKey || key = shortNullKey then
        some .nullity
      else
        none

/-- The members of a set, written as a JSON array of scalars. -/
def readMembers (key : String) : List Json → Except OperatorFault (List Value)
  | [] => .ok []
  | item :: rest =>
      match Value.ofJson? item with
      | none => .error (.scalarMemberExpected key item)
      | some value => do
          let others ← readMembers key rest
          .ok (value :: others)

/-- The operator as a descriptor spells it, before it is normalized. -/
def readDescriptor (key : String) (operand : Json) : Except OperatorFault Operator :=
  match select? key with
  | none => .error (.unknownKey key)
  | some (.comparison comparison) =>
      match Value.ofJson? operand with
      | some value => .ok (compare comparison value)
      | none => .error (.scalarExpected key operand)
  | some (.membership negated) =>
      match operand with
      | .array items => do
          let members ← readMembers key items
          .ok (member negated members)
      | other => .error (.arrayExpected key other)
  | some .nullity =>
      match operand with
      | .boolean flag => .ok (isNull flag)
      | other => .error (.booleanExpected key other)

/-- The operator that a descriptor means. -/
def ofDescriptor (key : String) (operand : Json) : Except OperatorFault Operator := do
  let operator ← readDescriptor key operand
  operator.normalize

/-- The values that the operator holds a field against. -/
def operands : Operator → List Value
  | compare _ operand => [operand]
  | member _ members => members
  | isNull _ => []

/-- The operand as JSON, in the form in which a descriptor holds it. -/
def operandJson : Operator → Json
  | compare _ operand => operand.toJson
  | member _ members => .array (members.map Value.toJson)
  | isNull flag => .boolean flag

end Operator

namespace OperatorFault

/-- What the fault says to a reader. -/
def message : OperatorFault → String
  | unknownKey key => s!"unknown operator '{key}'"
  | scalarExpected key operand =>
      s!"operator '{key}' expects a scalar operand, got {operand.toText}"
  | arrayExpected key operand =>
      s!"operator '{key}' expects an array operand, got {operand.toText}"
  | scalarMemberExpected key member =>
      s!"operator '{key}' expects scalar members, got {member.toText}"
  | booleanExpected key operand =>
      s!"operator '{key}' expects a boolean, got {operand.toText}"
  | orderingOfNull comparison =>
      s!"operator '{comparison.key}' cannot compare against null"
  | emptySet negated =>
      s!"operator '{Operator.memberKey negated}' requires a non-empty set"
  | nullMember negated =>
      s!"operator '{Operator.memberKey negated}' does not accept null members, use 'is-null'"

end OperatorFault

end RecordStore
