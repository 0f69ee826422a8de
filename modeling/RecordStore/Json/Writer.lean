import RecordStore.Double.Shortest
import RecordStore.Json.Basic

/-!
# Writing JSON text

The text is compact: no blank stands between tokens.  Strings escape the
quotation mark, the backslash and the control characters below U+0020;
everything else stands literally.  A double is written with the shortest
digits that read back as the same double, and always looks like one: it has
a fraction or an exponent.
-/

namespace RecordStore.Json

/-- A number below sixteen as a lower-case digit. -/
def hexDigit (number : Nat) : Char :=
  Char.ofNat (if number < 10 then 48 + number else 87 + number)

/-- The characters that stand for one character of a string. -/
def escape (c : Char) : List Char :=
  if c = '"' then ['\\', '"']
  else if c = '\\' then ['\\', '\\']
  else if c.toNat = 0x08 then ['\\', 'b']
  else if c.toNat = 0x09 then ['\\', 't']
  else if c.toNat = 0x0A then ['\\', 'n']
  else if c.toNat = 0x0C then ['\\', 'f']
  else if c.toNat = 0x0D then ['\\', 'r']
  else if c.toNat < 0x20 then
    ['\\', 'u', '0', '0', hexDigit (c.toNat / 16), hexDigit (c.toNat % 16)]
  else [c]

/-- A string between quotation marks. -/
def writeText (content : List Char) : List Char :=
  '"' :: content.flatMap escape ++ ['"']

/-- A whole number in base ten. -/
def writeInteger (number : Int) : List Char :=
  match number with
  | .ofNat magnitude => Nat.toDigits 10 magnitude
  | .negSucc magnitude => '-' :: Nat.toDigits 10 (magnitude + 1)

/-- The least power of ten of a leading digit that is written without an exponent. -/
def leastPlainExponent : Int := -5

/-- The greatest power of ten of a leading digit that is written without an exponent. -/
def greatestPlainExponent : Int := 15

/-- Digits with a point after as many of them as stand before it; the fraction is never empty. -/
def writePlain (digits : List Char) (leading : Int) : List Char :=
  match leading with
  | .ofNat power =>
      let whole := digits.take (power + 1)
      let fraction := digits.drop (power + 1)
      whole ++ List.replicate (power + 1 - whole.length) '0' ++
        '.' :: (if fraction.isEmpty then ['0'] else fraction)
  | .negSucc power =>
      '0' :: '.' :: List.replicate power '0' ++ digits

/-- Digits with a point after the first one, and an exponent that always has a sign. -/
def writeScientific (digits : List Char) (leading : Int) : List Char :=
  let fraction := digits.drop 1
  digits.take 1 ++ (if fraction.isEmpty then [] else '.' :: fraction) ++
    'e' :: (if 0 ≤ leading then '+' :: writeInteger leading else writeInteger leading)

/-- A decimal, in the notation that the place of its leading digit asks for. -/
def writeDecimal (decimal : Decimal) : List Char :=
  let all := Nat.toDigits 10 decimal.digits
  let leading := decimal.exponent + all.length - 1
  let digits := (all.reverse.dropWhile (· == '0')).reverse
  if leastPlainExponent ≤ leading && leading ≤ greatestPlainExponent then
    writePlain digits leading
  else
    writeScientific digits leading

/-- A double; what is not finite has no JSON form and is written as null. -/
def writeReal (number : Double) : List Char :=
  if !number.isFinite then
    ['n', 'u', 'l', 'l']
  else
    let sign := if number.isNegative then ['-'] else []
    if number.magnitude = 0 then
      sign ++ ['0', '.', '0']
    else
      sign ++ writeDecimal number.shortest

/-- Pieces of text with commas between them. -/
def separate : List (List Char) → List Char
  | [] => []
  | [piece] => piece
  | piece :: next :: rest => piece ++ ',' :: separate (next :: rest)

mutual

/-- The characters of a value. -/
def write : Json → List Char
  | null => ['n', 'u', 'l', 'l']
  | boolean true => ['t', 'r', 'u', 'e']
  | boolean false => ['f', 'a', 'l', 's', 'e']
  | integer number => writeInteger number
  | real number => writeReal number
  | text content => writeText content.toList
  | array elements => '[' :: separate (writeElements elements) ++ [']']
  | object members => '{' :: separate (writeMembers members) ++ ['}']

/-- The characters of each element. -/
def writeElements : List Json → List (List Char)
  | [] => []
  | element :: rest => write element :: writeElements rest

/-- The characters of each member: its name, a colon and its value. -/
def writeMembers : List (String × Json) → List (List Char)
  | [] => []
  | (name, value) :: rest =>
      (writeText name.toList ++ ':' :: write value) :: writeMembers rest

end

/-- The text of a value. -/
def toText (value : Json) : String :=
  String.ofList value.write

end RecordStore.Json
