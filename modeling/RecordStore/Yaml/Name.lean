import RecordStore.Json.Reader
import RecordStore.Yaml.Located
import RecordStore.Yaml.Token

/-!
# Names, tags and directives

Anchors and handles are words.  A tag is an address, given in full or after
a handle that stands for the beginning of one; octets that no address may
hold are written as a percent sign and two digits.
-/

namespace RecordStore.Yaml.Name

/-- A character of a word. -/
def isWord (c : Char) : Bool :=
  c.isAlphanum || c == '_' || c == '-'

/-- The characters besides those of words that an address may hold. -/
def addressMarks : List Char :=
  ";/?:@&=+$.!~*'()".toList

/-- The characters that only an address given in full may hold. -/
def fullMarks : List Char :=
  ",[]".toList

/-- A character of an address. -/
def isAddress (full : Bool) (c : Char) : Bool :=
  isWord c || addressMarks.contains c || (full && fullMarks.contains c)

/-- The word at the front, and the characters after it. -/
def word (chars : List Located) : String × List Located :=
  (String.ofList ((chars.takeWhile fun c => isWord c.char).map Located.char),
    chars.dropWhile fun c => isWord c.char)

/-- The characters that may follow the name of a node besides a gap. -/
def followers : List Char :=
  "?:,]\x7d%@\x60".toList

/-- Reads the name of a node after the character that announces it. -/
def readNode (chars : List Located) : Option (String × List Located) :=
  let (name, rest) := word chars
  if name.isEmpty then
    none
  else if startsGap rest || followers.any fun c => startsWith c rest then
    some (name, rest)
  else
    none

/-! ## Addresses -/

/--
The number of octets that an octet leaves due, when so many were due before
it; a character takes as many octets as its first one says.
-/
def due? (due octet : Nat) : Option Nat :=
  match due with
  | 0 =>
      if octet < 0x80 then some 0
      else if 0xC0 ≤ octet && octet < 0xE0 then some 1
      else if 0xE0 ≤ octet && octet < 0xF0 then some 2
      else if 0xF0 ≤ octet && octet < 0xF8 then some 3
      else none
  | due + 1 => if 0x80 ≤ octet && octet < 0xC0 then some due else none

/-- Reads the characters of an address; an escaped octet is the character with its number. -/
def readOctets (full : Bool) (due : Nat) : List Located → Option (List Char × List Located)
  | [] => if due = 0 then some ([], []) else none
  | c :: rest =>
      if c.char = '%' then
        match rest with
        | high :: low :: later =>
            match Json.hexValue? high.char, Json.hexValue? low.char with
            | some high, some low =>
                match due? due (16 * high + low) with
                | none => none
                | some due =>
                    (readOctets full due later).map fun parts =>
                      (Char.ofNat (16 * high + low) :: parts.1, parts.2)
            | _, _ => none
        | _ => none
      else if due ≠ 0 then
        none
      else if isAddress full c.char then
        (readOctets full due rest).map fun parts => (c.char :: parts.1, parts.2)
      else
        some ([], c :: rest)

/-- The text of an address, which ends at an octet zero. -/
def addressText (octets : List Char) : String :=
  String.ofList (octets.takeWhile fun c => c.toNat ≠ 0)

/-- Reads an address that is not empty. -/
def readAddress (full : Bool) (chars : List Located) : Option (String × List Located) := do
  let (octets, rest) ← readOctets full 0 chars
  if octets.isEmpty then none else some (addressText octets, rest)

/-! ## Tags -/

/-- The handle of addresses given in full. -/
def noHandle : String := ""

/-- The handle of tags that belong to the document. -/
def localHandle : String := "!"

/-- The handle of the tags of YAML itself. -/
def sharedHandle : String := "!!"

/-- A handle with a name. -/
def namedHandle (name : String) : String :=
  "!" ++ name ++ "!"

/-- Reads a tag after its exclamation mark, up to whatever follows it. -/
def readTagText (chars : List Located) : Option ((String × String) × List Located) :=
  match chars with
  | [] => some ((noHandle, localHandle), [])
  | c :: rest =>
      if c.char = '<' then do
        let (address, rest) ← readAddress true rest
        if startsWith '>' rest then
          some ((noHandle, address), rest.drop 1)
        else
          none
      else
        let (name, rest) := word (c :: rest)
        if startsWith '!' rest then do
          let (suffix, rest) ← readAddress false (rest.drop 1)
          some ((namedHandle name, suffix), rest)
        else do
          let (octets, rest) ← readOctets false 0 rest
          let suffix := name ++ addressText octets
          if suffix.isEmpty then
            some ((noHandle, localHandle), rest)
          else
            some ((localHandle, suffix), rest)

/-- Reads a tag after its exclamation mark; a gap follows it, or a comma between brackets. -/
def readTag (inFlow : Bool) (chars : List Located) : Option (Token × List Located) := do
  let ((handle, suffix), rest) ← readTagText chars
  if startsGap rest || (inFlow && startsWith ',' rest) then
    some (.tag handle suffix, rest)
  else
    none

/-! ## Directives -/

/-- The greatest number of digits in a version. -/
def maximalDigits : Nat := 9

/-- Reads a number of a version. -/
def readNumber (chars : List Located) : Option (Nat × List Located) :=
  let digits := (chars.takeWhile fun c => c.char.isDigit).map Located.char
  if digits.isEmpty || maximalDigits < digits.length then
    none
  else
    some (Json.digitsValue digits, chars.dropWhile fun c => c.char.isDigit)

/-- Reads the version that a directive gives. -/
def readVersion (chars : List Located) : Option (Token × List Located) := do
  let (major, rest) ← readNumber (skipSpaces chars)
  if startsWith '.' rest then
    let (minor, rest) ← readNumber (rest.drop 1)
    some (.version major minor, rest)
  else
    none

/-- Reads the handle that a directive declares. -/
def readHandle (chars : List Located) : Option (String × List Located) :=
  if startsWith '!' chars then
    let (name, rest) := word (chars.drop 1)
    if startsWith '!' rest then some (namedHandle name, rest.drop 1)
    else if name.isEmpty then some (localHandle, rest)
    else none
  else
    none

/-- The next character is a space. -/
def startsSpace (chars : List Located) : Bool :=
  startsWith ' ' chars || startsWith '\t' chars

/-- Reads the declaration of a handle. -/
def readDeclaration (chars : List Located) : Option (Token × List Located) := do
  let (name, rest) ← readHandle (skipSpaces chars)
  if startsSpace rest then
    let (address, rest) ← readAddress true (skipSpaces rest)
    if startsGap rest then some (.handle name address, rest) else none
  else
    none

/-- Reads a directive after its percent sign, up to the end of its line. -/
def readDirective (chars : List Located) : Option (Token × List Located) := do
  let (name, rest) := word chars
  if !startsGap rest then
    none
  else
    let (token, rest) ←
      if name = "YAML" then readVersion rest
      else if name = "TAG" then readDeclaration rest
      else none
    let rest := skipSpaces rest
    let rest := if startsWith '#' rest then skipLine rest else rest
    match rest with
    | [] => some (token, [])
    | c :: later => if isBreak c.char then some (token, later) else none

end RecordStore.Yaml.Name
