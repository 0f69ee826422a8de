import RecordStore.Json.Reader
import RecordStore.Json.Writer

/-!
# Scalar values

A value is what a field of a record holds and what a placeholder of an SQL
text is bound to.  Every scalar of JSON is a value: a number that was written
as a whole number and fits a signed 64-bit word is an integer, and every
other number is a real.  Arrays and objects are no values.

There are two ways from JSON to a value.  The operand of a filter is taken
apart by what it is.  A field of a record is buffered and tried as each kind
of value in turn, and the first kind that takes it wins.
-/

namespace RecordStore

/-- A scalar value. -/
inductive Value where
  | null
  | boolean (flag : Bool)
  | integer (number : Int64)
  | real (number : Double)
  | text (content : String)
  deriving DecidableEq, Repr

namespace Value

/-- The value is null. -/
def isNull : Value → Bool
  | null => true
  | _ => false

/-- The name of the value's kind. -/
def kind : Value → String
  | null => "null"
  | boolean _ => "boolean"
  | integer _ => "integer"
  | real _ => "real"
  | text _ => "text"

/-- The whole number fits a signed word. -/
def fitsWord (number : Int) : Bool :=
  Int64.minValue.toInt ≤ number && number ≤ Int64.maxValue.toInt

/-- The value of a whole number: an integer when it fits, the nearest real otherwise. -/
def ofInt (number : Int) : Value :=
  if fitsWord number then
    integer (Int64.ofInt number)
  else
    real (Double.ofDecimal (number < 0) number.natAbs 0)

/-- The value of a JSON scalar. -/
def ofJson? : Json → Option Value
  | .null => some null
  | .boolean flag => some (boolean flag)
  | .integer number => some (ofInt number)
  | .real number => some (real number)
  | .text content => some (text content)
  | .array _ => none
  | .object _ => none

/-- The value is no infinity and no NaN, which JSON cannot spell. -/
def isFinite : Value → Bool
  | real number => number.isFinite
  | _ => true

/-- The value is not a number. -/
def isNaN : Value → Bool
  | real number => number.isNaN
  | _ => false

/-- The JSON scalar of a value; null stands for a real that is not finite. -/
def toJson : Value → Json
  | null => .null
  | boolean flag => .boolean flag
  | integer number => .integer number.toInt
  | real number => if number.isFinite then .real number else .null
  | text content => .text content

/-! ## Kinds in turn -/

/-- Takes a word that is null. -/
def asNull? : Json → Option Value
  | .null => some null
  | _ => none

/-- Takes a truth value. -/
def asBoolean? : Json → Option Value
  | .boolean flag => some (boolean flag)
  | _ => none

/-- Takes a whole number that fits a signed word. -/
def asInteger? : Json → Option Value
  | .integer number => if fitsWord number then some (integer (Int64.ofInt number)) else none
  | _ => none

/-- Takes every number; a whole one becomes the nearest double. -/
def asReal? : Json → Option Value
  | .integer number => some (real (Double.ofDecimal (number < 0) number.natAbs 0))
  | .real number => some (real number)
  | _ => none

/-- Takes a string. -/
def asText? : Json → Option Value
  | .text content => some (text content)
  | _ => none

/-- The kinds of values, in the order in which they are tried. -/
def kinds : List (Json → Option Value) :=
  [asNull?, asBoolean?, asInteger?, asReal?, asText?]

/-- The buffered value as the first kind that takes it. -/
def ofBuffered? (json : Json) : Option Value :=
  kinds.findSome? (· json)

/-- Reads a text as one value: a container is refused as soon as it has been read. -/
def read (input : String) : Except Json.Fault Value :=
  Json.finish do
    let (json, rest) ← Json.readValue Json.maximalDepth input.toList
    match ofBuffered? json with
    | some value => .ok (value, rest)
    | none => .error .mismatched

end Value

end RecordStore
