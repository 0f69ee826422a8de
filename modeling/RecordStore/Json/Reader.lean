import RecordStore.Double.Nearest
import RecordStore.Json.Basic
import RecordStore.Text.Utf8

/-!
# Reading JSON text

A text is read from left to right, and the first fault decides what is wrong
with it: the text ended too early, the text is no JSON, or the text is JSON
of another type than was asked for.  The readers here take the characters
that are left and give back what they read together with the characters
after it.

Arrays and objects nest up to a fixed depth.  Reading a value recurses on the
depth that is left; the loops over elements and members recurse on a bound
for their number, which is the number of characters left.
-/

namespace RecordStore.Json

/-- What is wrong with a text that was to be read as JSON. -/
inductive Fault where
  | ended
  | malformed
  | mismatched
  deriving DecidableEq, Repr

/-- How deep arrays and objects may nest. -/
def maximalDepth : Nat := 127

/-- A character that may stand between two tokens. -/
def isSpace (c : Char) : Bool :=
  c == ' ' || c == '\n' || c == '\t' || c == '\r'

/-- The characters from the next token on. -/
def skipSpace (input : List Char) : List Char :=
  input.dropWhile isSpace

/-- The number that a digit in base ten stands for. -/
def digitValue (c : Char) : Nat :=
  c.toNat - 48

/-- The number that digits in base ten stand for. -/
def digitsValue (digits : List Char) : Nat :=
  digits.foldl (fun value c => 10 * value + digitValue c) 0

/-- The number that a digit in base sixteen stands for, in either letter case. -/
def hexValue? (c : Char) : Option Nat :=
  if c.isDigit then some (c.toNat - 48)
  else if 'a' ≤ c && c ≤ 'f' then some (c.toNat - 87)
  else if 'A' ≤ c && c ≤ 'F' then some (c.toNat - 55)
  else none

/-- Reads the rest of a fixed word. -/
def readWord : List Char → List Char → Except Fault (List Char)
  | [], input => .ok input
  | _ :: _, [] => .error .ended
  | expected :: word, c :: input =>
      if expected = c then readWord word input else .error .malformed

/-! ## Numbers -/

/-- Reads digits, at least one. -/
def readDigits (input : List Char) : Except Fault (List Char × List Char) :=
  match input with
  | [] => .error .ended
  | c :: _ =>
      if c.isDigit then
        .ok (input.takeWhile Char.isDigit, input.dropWhile Char.isDigit)
      else
        .error .malformed

/-- Reads the digits before the point: a zero alone, or digits that do not start with zero. -/
def readWhole (input : List Char) : Except Fault (List Char × List Char) :=
  match input with
  | '0' :: rest =>
      match rest with
      | c :: _ => if c.isDigit then .error .malformed else .ok (['0'], rest)
      | [] => .ok (['0'], rest)
  | _ => readDigits input

/-- Reads a point with the digits after it, if a point comes next. -/
def readFraction (input : List Char) : Except Fault (Option (List Char) × List Char) :=
  match input with
  | '.' :: rest => do
      let (digits, rest) ← readDigits rest
      .ok (some digits, rest)
  | _ => .ok (none, input)

/-- Reads an exponent, if its letter comes next. -/
def readExponent (input : List Char) : Except Fault (Option Int × List Char) :=
  match input with
  | letter :: rest =>
      if letter = 'e' ∨ letter = 'E' then
        match rest with
        | '-' :: rest => do
            let (digits, rest) ← readDigits rest
            .ok (some (-(digitsValue digits : Int)), rest)
        | '+' :: rest => do
            let (digits, rest) ← readDigits rest
            .ok (some (digitsValue digits : Int), rest)
        | rest => do
            let (digits, rest) ← readDigits rest
            .ok (some (digitsValue digits : Int), rest)
      else
        .ok (none, input)
  | [] => .ok (none, input)

/-- The whole numbers that are kept as such: those of 64 bits, with or without a sign. -/
def fitsInteger (negative : Bool) (magnitude : Nat) : Bool :=
  if negative then
    magnitude ≠ 0 && magnitude ≤ Nat.pow 2 63
  else
    magnitude < Nat.pow 2 64

/--
The number with the given parts.

A double takes what is no kept whole number; `-0` is the double with that
sign.  A number beyond all doubles is a fault.
-/
def numberOf
    (negative : Bool)
    (whole : List Char)
    (fraction : Option (List Char))
    (exponent : Option Int) :
    Except Fault Json :=
  let magnitude := digitsValue whole
  if fraction.isNone && exponent.isNone && fitsInteger negative magnitude then
    .ok (.integer (if negative then -(magnitude : Int) else magnitude))
  else
    let after := fraction.getD []
    let value :=
      Double.ofDecimal negative (digitsValue (whole ++ after))
        (exponent.getD 0 - after.length)
    if value.isFinite then .ok (.real value) else .error .malformed

/-- Reads a number. -/
def readNumber (input : List Char) : Except Fault (Json × List Char) :=
  let negative := input.head? == some '-'
  let unsigned := if negative then input.drop 1 else input
  do
    let (whole, rest) ← readWhole unsigned
    let (fraction, rest) ← readFraction rest
    let (exponent, rest) ← readExponent rest
    let number ← numberOf negative whole fraction exponent
    .ok (number, rest)

/-! ## Strings -/

/-- Reads the four digits of an escaped code unit; they fill at least four bytes. -/
def readCodeUnit (input : List Char) : Except Fault (Nat × List Char) :=
  match input with
  | a :: b :: c :: d :: rest =>
      match hexValue? a, hexValue? b, hexValue? c, hexValue? d with
      | some a, some b, some c, some d =>
          .ok (((a * 16 + b) * 16 + c) * 16 + d, rest)
      | _, _, _, _ => .error .malformed
  | _ => if Utf8.byteCount input < 4 then .error .ended else .error .malformed

/-- A code unit that opens a pair. -/
def opensPair (unit : Nat) : Bool :=
  0xD800 ≤ unit && unit ≤ 0xDBFF

/-- A code unit that closes a pair. -/
def closesPair (unit : Nat) : Bool :=
  0xDC00 ≤ unit && unit ≤ 0xDFFF

/-- Reads one expected character. -/
def readCharacter (expected : Char) (input : List Char) : Except Fault (List Char) :=
  match input with
  | [] => .error .ended
  | c :: rest => if c = expected then .ok rest else .error .malformed

/-- Reads an escaped code point after its `u`; one beyond the first plane is written as a pair. -/
def readCodePoint (input : List Char) : Except Fault (Char × List Char) := do
  let (unit, rest) ← readCodeUnit input
  if closesPair unit then
    .error .malformed
  else if opensPair unit then
    let rest ← readCharacter '\\' rest
    let rest ← readCharacter 'u' rest
    let (second, rest) ← readCodeUnit rest
    if closesPair second then
      .ok (Char.ofNat (0x10000 + (unit - 0xD800) * 0x400 + (second - 0xDC00)), rest)
    else
      .error .malformed
  else
    .ok (Char.ofNat unit, rest)

/-- Reads what follows the backslash of an escape. -/
def readEscape (input : List Char) : Except Fault (Char × List Char) :=
  match input with
  | [] => .error .ended
  | '"' :: rest => .ok ('"', rest)
  | '\\' :: rest => .ok ('\\', rest)
  | '/' :: rest => .ok ('/', rest)
  | 'b' :: rest => .ok (Char.ofNat 0x08, rest)
  | 'f' :: rest => .ok (Char.ofNat 0x0C, rest)
  | 'n' :: rest => .ok ('\n', rest)
  | 'r' :: rest => .ok ('\r', rest)
  | 't' :: rest => .ok ('\t', rest)
  | 'u' :: rest => readCodePoint rest
  | _ => .error .malformed

/-- Reads a string after its opening quotation mark; `bound` exceeds the number of characters. -/
def readCharacters : Nat → List Char → Except Fault (List Char × List Char)
  | 0, _ => .error .ended
  | _ + 1, [] => .error .ended
  | bound + 1, c :: input =>
      if c = '"' then
        .ok ([], input)
      else if c = '\\' then do
        let (character, rest) ← readEscape input
        let (others, rest) ← readCharacters bound rest
        .ok (character :: others, rest)
      else if c.toNat < 0x20 then
        .error .malformed
      else do
        let (others, rest) ← readCharacters bound input
        .ok (c :: others, rest)

/-- Reads a string after its opening quotation mark. -/
def readText (input : List Char) : Except Fault (String × List Char) := do
  let (characters, rest) ← readCharacters (input.length + 1) input
  .ok (String.ofList characters, rest)

/-! ## Arrays and objects -/

/-- Reads elements and the closing bracket, given a reader of one element. -/
def readElements
    (readElement : List Char → Except Fault (Json × List Char)) :
    Nat → List Char → Except Fault (List Json × List Char)
  | 0, _ => .error .ended
  | bound + 1, input => do
      let (element, rest) ← readElement input
      match skipSpace rest with
      | [] => .error .ended
      | ']' :: rest => .ok ([element], rest)
      | ',' :: rest =>
          match skipSpace rest with
          | ']' :: _ => .error .malformed
          | rest => do
              let (others, rest) ← readElements readElement bound rest
              .ok (element :: others, rest)
      | _ => .error .malformed

/-- Reads the colon after a member's name. -/
def readColon (input : List Char) : Except Fault (List Char) :=
  readCharacter ':' (skipSpace input)

/--
Reads members and the closing brace.

What is known of the members so far is passed on from one to the next; the
reader of one member starts after the member's name.
-/
def readMembers
    {α : Type}
    (readMember : α → String → List Char → Except Fault (α × List Char)) :
    Nat → α → List Char → Except Fault (α × List Char)
  | 0, _, _ => .error .ended
  | bound + 1, known, input =>
      match input with
      | [] => .error .ended
      | '"' :: rest => do
          let (name, rest) ← readText rest
          let (known, rest) ← readMember known name rest
          match skipSpace rest with
          | [] => .error .ended
          | '}' :: rest => .ok (known, rest)
          | ',' :: rest => readMembers readMember bound known (skipSpace rest)
          | _ => .error .malformed
      | _ => .error .malformed

/-- Reads an object after its opening brace. -/
def readObject
    {α : Type}
    (readMember : α → String → List Char → Except Fault (α × List Char))
    (empty : α)
    (input : List Char) :
    Except Fault (α × List Char) :=
  match skipSpace input with
  | '}' :: rest => .ok (empty, rest)
  | rest => readMembers readMember (rest.length + 1) empty rest

/-- Reads a value, with the given depth left for arrays and objects. -/
def readValue : Nat → List Char → Except Fault (Json × List Char)
  | depth, input =>
      match skipSpace input with
      | [] => .error .ended
      | 'n' :: rest => do
          let rest ← readWord ['u', 'l', 'l'] rest
          .ok (.null, rest)
      | 't' :: rest => do
          let rest ← readWord ['r', 'u', 'e'] rest
          .ok (.boolean true, rest)
      | 'f' :: rest => do
          let rest ← readWord ['a', 'l', 's', 'e'] rest
          .ok (.boolean false, rest)
      | '"' :: rest => do
          let (content, rest) ← readText rest
          .ok (.text content, rest)
      | '[' :: rest =>
          match depth with
          | 0 => .error .malformed
          | depth + 1 =>
              match skipSpace rest with
              | ']' :: rest => .ok (.array [], rest)
              | rest => do
                  let (elements, rest) ←
                    readElements (readValue depth) (rest.length + 1) rest
                  .ok (.array elements, rest)
      | '{' :: rest =>
          match depth with
          | 0 => .error .malformed
          | depth + 1 => do
              let (members, rest) ← readObject (fun known name rest => do
                let rest ← readColon rest
                let (value, rest) ← readValue depth rest
                .ok (setMember name value known, rest)) [] rest
              .ok (.object members, rest)
      | c :: rest =>
          if c = '-' ∨ c.isDigit then
            readNumber (c :: rest)
          else
            .error .malformed

/-- Accepts what was read when nothing but space follows. -/
def finish {α : Type} (reading : Except Fault (α × List Char)) : Except Fault α := do
  let (value, rest) ← reading
  if (skipSpace rest).isEmpty then .ok value else .error .malformed

/-- Reads a whole text as one value. -/
def read (text : String) : Except Fault Json :=
  finish (readValue maximalDepth text.toList)

end RecordStore.Json
