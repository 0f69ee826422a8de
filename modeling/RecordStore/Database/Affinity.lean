import RecordStore.Database.Cell
import RecordStore.Double.Rounded

/-!
# What cells are compared as

A column may want what it is compared with to be of a kind.  The row id
wants numbers, and a text that is compared with it counts as a number if it
looks like one: blanks may stand around it, it may have a sign, a point and
an exponent, and it needs a digit before the exponent.  A column of texts
takes a number as the text that the database writes for it.  Whatever cannot
be turned is compared as it is.
-/

namespace RecordStore

/-- The kind that a column wants what it is compared with to be of. -/
inductive Affinity where
  | plain
  | numbers
  | texts
  deriving DecidableEq, Repr

namespace Affinity

/-- A blank that may stand around a number. -/
def isBlank (c : Char) : Bool :=
  c == ' ' || (0x09 ≤ c.toNat && c.toNat ≤ 0x0D)

/-- Takes a sign off the front; it is negative when the flag is set. -/
def splitSign : List Char → Bool × List Char
  | '-' :: rest => (true, rest)
  | '+' :: rest => (false, rest)
  | other => (false, other)

/-- Splits the digits after a point off the front, if there is a point. -/
def splitFraction : List Char → Option (List Char) × List Char
  | '.' :: rest => (some (rest.takeWhile Char.isDigit), rest.dropWhile Char.isDigit)
  | other => (none, other)

/-- The exponent that the whole of a text spells; nothing at all spells none. -/
def readExponent? : List Char → Option (Option Int)
  | [] => some none
  | letter :: rest =>
      let (negative, digits) := splitSign rest
      if (letter == 'e' || letter == 'E') && !digits.isEmpty && digits.all Char.isDigit then
        let magnitude : Int := Json.digitsValue digits
        some (some (if negative then -magnitude else magnitude))
      else
        none

/-- The number that a text looks like. -/
def readNumber? (text : List Char) : Option Cell :=
  let trimmed := ((text.dropWhile isBlank).reverse.dropWhile isBlank).reverse
  let (negative, unsigned) := splitSign trimmed
  let whole := unsigned.takeWhile Char.isDigit
  let (fraction, rest) := splitFraction (unsigned.dropWhile Char.isDigit)
  let digits := whole ++ fraction.getD []
  match readExponent? rest with
  | none => none
  | some exponent =>
      if digits.isEmpty then
        none
      else
        let magnitude := Json.digitsValue digits
        let number : Int := if negative then -(magnitude : Int) else magnitude
        if fraction.isNone && exponent.isNone && Value.fitsWord number then
          some (.integer (Int64.ofInt number))
        else
          let power := exponent.getD 0 - (fraction.getD []).length
          some (.real (Double.ofDecimal negative magnitude power))

/-- The cell as a number, if it looks like one. -/
def numeric (cell : Cell) : Cell :=
  match cell with
  | .text bytes =>
      let characters := bytes.map fun byte => Char.ofNat byte.toNat
      (readNumber? characters).getD cell
  | other => other

/--
The whole number that a cell stands for.  The least whole number of all has
to be written as one: as a double it is on the edge, and stands for none.
-/
def wholeNumber? (cell : Cell) : Option Int64 :=
  match numeric cell with
  | .integer number => some number
  | .real number =>
      let whole := number.units / Double.unitsPerOne
      if number.isFinite && whole * Double.unitsPerOne = number.units &&
          Value.fitsWord whole && whole != Int64.minValue.toInt then
        some (Int64.ofInt whole)
      else
        none
  | _ => none

/-- How many digits of a double are written. -/
def writtenDigits : Nat := 15

/-- The least power of ten of a leading digit that is written without an exponent. -/
def leastPlainExponent : Int := -4

/-- The greatest power of ten of a leading digit that is written without an exponent. -/
def greatestPlainExponent : Int := 14

/-- An exponent: its sign, and at least two digits. -/
def writeExponent (exponent : Int) : List Char :=
  let digits := Nat.toDigits 10 exponent.natAbs
  (if exponent < 0 then '-' else '+') :: List.replicate (2 - digits.length) '0' ++ digits

/-- A decimal, with a fraction in any case. -/
def writeDecimal (decimal : Decimal) : List Char :=
  let all := Nat.toDigits 10 decimal.digits
  let leading := decimal.exponent + all.length - 1
  let digits := (all.reverse.dropWhile (· == '0')).reverse
  if leastPlainExponent ≤ leading && leading ≤ greatestPlainExponent then
    Json.writePlain digits leading
  else
    Json.writePlain digits 0 ++ 'e' :: writeExponent leading

/-- A double as the database writes it; zero has no sign. -/
def writeReal (number : Double) : List Char :=
  let sign := if number.isNegative then ['-'] else []
  if number.magnitude = 0 then ['0', '.', '0']
  else if number.isFinite then sign ++ writeDecimal (number.rounded writtenDigits)
  else sign ++ ['I', 'n', 'f']

/-- The cell as a text, if it is a number. -/
def textual (cell : Cell) : Cell :=
  match cell with
  | .integer number => .text (Utf8.encode (String.ofList (Json.writeInteger number.toInt)))
  | .real number => .text (Utf8.encode (String.ofList (writeReal number)))
  | other => other

/-- The cell as it is compared with a column. -/
def apply (affinity : Affinity) (cell : Cell) : Cell :=
  match affinity with
  | plain => cell
  | numbers => numeric cell
  | texts => textual cell

end Affinity

end RecordStore
