import RecordStore.Json.Reader
import RecordStore.Yaml.Node

/-!
# What scalars mean

A plain scalar without a tag is nothing, a flag or a whole number if its text
is written like one, and a text otherwise; every other scalar without a tag
is a text.  The tags of YAML itself ask for one of these meanings.
-/

namespace RecordStore.Yaml

/-- What a scalar can mean. -/
inductive Meaning where
  | null
  | boolean (flag : Bool)
  | integer (number : Int)
  | text (content : String)
  deriving DecidableEq, Repr

namespace Meaning

/-- The texts that mean nothing. -/
def nullWords : List String := ["null", "Null", "NULL", "~"]

/-- The texts that mean a flag. -/
def booleanWords : List (String × Bool) :=
  [("true", true), ("True", true), ("TRUE", true),
    ("false", false), ("False", false), ("FALSE", false)]

/-- The number that digits of a base stand for. -/
def digits? (base : Nat) (digits : List Char) : Option Nat :=
  if digits.isEmpty then
    none
  else
    digits.foldlM
      (fun value c =>
        match Json.hexValue? c with
        | some digit => if digit < base then some (base * value + digit) else none
        | none => none)
      0

/-- The number that a text without a sign stands for; digits after a leading zero are none. -/
def natural? : List Char → Option Nat
  | '0' :: 'x' :: digits => digits? 16 digits
  | '0' :: 'o' :: digits => digits? 8 digits
  | '0' :: 'b' :: digits => digits? 2 digits
  | '0' :: _ :: _ => none
  | digits => digits? 10 digits

/-- The whole number that a text stands for. -/
def integer? (text : String) : Option Int :=
  match text.toList with
  | '-' :: rest => (natural? rest).map fun magnitude => -(magnitude : Int)
  | '+' :: rest => (natural? rest).map fun magnitude => (magnitude : Int)
  | rest => (natural? rest).map fun magnitude => (magnitude : Int)

/-- What a text means that stands without quotes and tag. -/
def ofPlain (content : String) : Meaning :=
  if content.isEmpty || nullWords.contains content then
    null
  else
    match booleanWords.lookup content with
    | some flag => boolean flag
    | none =>
        match integer? content with
        | some number => integer number
        | none => text content

end Meaning

namespace Scalar

/-- The tag that asks for nothing. -/
def nullTag : String := "tag:yaml.org,2002:null"

/-- The tag that asks for a flag. -/
def booleanTag : String := "tag:yaml.org,2002:bool"

/-- The tag that asks for a whole number. -/
def integerTag : String := "tag:yaml.org,2002:int"

/-- The tag that asks for a number with a fraction. -/
def realTag : String := "tag:yaml.org,2002:float"

/-- The tag belongs to the document, which alone knows what it means. -/
def isLocalTag (tag : String) : Bool :=
  tag.toList.head? == some '!'

/--
What a scalar means, if it is one of the known meanings and its text is
written like what its tag asks for.
-/
def meaning? (scalar : Scalar) : Option Meaning :=
  match scalar.tag with
  | none =>
      some (if scalar.isPlain then .ofPlain scalar.text else .text scalar.text)
  | some tag =>
      if isLocalTag tag || tag = realTag then
        none
      else if tag = nullTag then
        if Meaning.nullWords.contains scalar.text then some .null else none
      else if tag = booleanTag then
        (Meaning.booleanWords.lookup scalar.text).map .boolean
      else if tag = integerTag then
        (Meaning.integer? scalar.text).map .integer
      else
        some (.text scalar.text)

/--
The text of a scalar that may be missing.

Only a plain scalar can mean nothing: without a tag if it is written so, and
with the tag for it always; `none` stands for a scalar with that tag that is
written otherwise.
-/
def optionalText? (scalar : Scalar) : Option (Option String) :=
  let isNull := Meaning.nullWords.contains scalar.text
  if !scalar.isPlain then
    some (some scalar.text)
  else
    match scalar.tag with
    | none =>
        some (if scalar.text.isEmpty || isNull then none else some scalar.text)
    | some tag =>
        if tag = nullTag then
          if isNull then some none else none
        else
          some (some scalar.text)

end Scalar

end RecordStore.Yaml
