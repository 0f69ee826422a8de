import RecordStore.Database.Fault
import RecordStore.Json.Reader
import RecordStore.Text.Blank
import RecordStore.Text.Case

/-!
# Addresses of databases

A database is named by the path of its file, by nothing at all, or by an
address: `file:`, the path, and parameters after a question mark.  In an
address a percent sign with two hexadecimal digits stands for a byte; the
byte zero ends the part in which it stands.  What follows a `#` does not
count.

The parameters say what may be done with the database, whether it is kept in
memory, whether connections share it, and through which file system it is
reached.  Parameters with other names are ignored.
-/

namespace RecordStore

/-- What may be done with the file of a database. -/
inductive Access where
  | reading
  | writing
  | creating
  | memory
  deriving DecidableEq, Repr

/-- Where a database is kept. -/
inductive Home where
  | connection
  | shared (name : String)
  | memoryFile (name : String)
  | file (name : String)
  deriving DecidableEq, Repr

/-- How a database is reached. -/
structure Address where
  home : Home
  access : Access
  isShared : Bool
  isImmutable : Bool
  deriving DecidableEq, Repr

namespace Access

/-- The word for an access. -/
def word : Access → String
  | reading => "ro"
  | writing => "rw"
  | creating => "rwc"
  | memory => "memory"

/-- The access for a word. -/
def ofWord? (word : String) : Option Access :=
  [reading, writing, creating, memory].find? fun access => access.word == word

/-- How much an access allows; one in memory could be widened to any other. -/
def rank : Access → Nat
  | reading => 0
  | writing => 1
  | creating => 2
  | memory => 3

/-- An access may take the place of another one. -/
def mayReplace (access known : Access) : Bool :=
  access == memory || access.rank ≤ known.rank

end Access

namespace Address

/-- What an address starts with. -/
def scheme : List Char := "file:".toList

/-- The only computer that an address may name. -/
def thisComputer : String := "localhost"

/-- The name of the database that is kept in memory. -/
def memoryName : String := ":memory:"

/-- The file systems on disk. -/
def diskSystems : List String := ["unix", "unix-none", "unix-dotfile", "unix-excl"]

/-- The file system in memory. -/
def memorySystem : String := "memdb"

/-- The bytes that a part of an address stands for. -/
def bytesOf : List Char → List UInt8
  | '%' :: high :: low :: rest =>
      match Json.hexValue? high, Json.hexValue? low with
      | some high, some low =>
          if high * 16 + low = 0 then []
          else UInt8.ofNat (high * 16 + low) :: bytesOf rest
      | _, _ => Utf8.encode "%" ++ bytesOf (high :: low :: rest)
  | c :: rest => Utf8.encode (String.ofList [c]) ++ bytesOf rest
  | [] => []

/-- The text that a part of an address stands for; bytes that are no text are replaced. -/
def textOf (part : List Char) : String :=
  Utf8.decodeLossy (bytesOf part)

/-- The name that a part of an address stands for; bytes that are no text keep it apart. -/
def nameOf (part : List Char) : String :=
  match Utf8.decode (bytesOf part) with
  | .ok name => name
  | .error _ => String.ofList ((bytesOf part).map fun byte => Char.ofNat (0x100000 + byte.toNat))

/-- Takes the computer off an address that names one. -/
def dropAuthority : List Char → Except DatabaseFault (List Char)
  | '/' :: '/' :: rest =>
      let authority := String.ofList (rest.takeWhile fun c => c ≠ '/')
      if authority.isEmpty || authority = thisComputer then
        .ok (rest.dropWhile fun c => c ≠ '/')
      else
        .error (.badAuthority authority)
  | other => .ok other

/-- A parameter: its name, and its value if it has one. -/
def parameterOf (part : List Char) : String × String :=
  (textOf (part.takeWhile fun c => c ≠ '='),
    textOf ((part.dropWhile fun c => c ≠ '=').drop 1))

/-- The parameters of an address; those without a name do not count. -/
def parametersOf (parts : List Char) : List (String × String) :=
  ((Text.splitAt '&' parts).map parameterOf).filter fun parameter => !parameter.1.isEmpty

/-- A value that switches something on. -/
def isOn (value : String) : Bool :=
  let digits := value.toList.takeWhile Char.isDigit
  if digits.isEmpty then
    ["on", "yes", "true"].any (Text.sameName value)
  else
    Json.digitsValue digits % 256 != 0

/-- What the parameters say of access and sharing, from left to right. -/
def readModes (access : Access) (isShared : Bool) :
    List (String × String) → Except DatabaseFault (Access × Bool)
  | [] => .ok (access, isShared)
  | (name, value) :: rest =>
      if name = "cache" then
        if value = "shared" then readModes access true rest
        else if value = "private" then readModes access false rest
        else .error (.noSuchMode name value)
      else if name = "mode" then
        match Access.ofWord? value with
        | none => .error (.noSuchMode "access" value)
        | some next =>
            if next.mayReplace access then readModes next isShared rest
            else .error (.accessNotAllowed value)
      else
        readModes access isShared rest

/-- Whether the file system with a name is one in memory; without a name, it is on disk. -/
def readSystem : Option String → Except DatabaseFault Bool
  | none => .ok false
  | some name =>
      if diskSystems.contains name then .ok false
      else if name = memorySystem then .ok true
      else .error (.noSuchFileSystem name)

/-- A file in memory has a name to others only if it looks like a path from the root. -/
def isPublic (name : String) : Bool :=
  match name.toList with
  | [] => false
  | [_] => false
  | first :: _ => first == '/' || first == '\\'

/-- Where the database with a name is kept. -/
def homeOf (name : String) (access : Access) (isShared isInMemory : Bool) : Home :=
  if name.isEmpty then
    .connection
  else if name = memoryName || access = .memory then
    if isShared then .shared name else .connection
  else if isInMemory then
    if isPublic name then .memoryFile name else .connection
  else
    .file name

/-- The value of a parameter, that of the last one with its name. -/
def last? (name : String) (parameters : List (String × String)) : Option String :=
  parameters.reverse.lookup name

/-- Reads an address without what it starts with. -/
def readParts (text : List Char) : Except DatabaseFault Address := do
  let parts ← dropAuthority text
  let counted := parts.takeWhile fun c => c ≠ '#'
  let name := nameOf (counted.takeWhile fun c => c ≠ '?')
  let parameters := parametersOf ((counted.dropWhile fun c => c ≠ '?').drop 1)
  let (access, isShared) ← readModes .creating false parameters
  let isInMemory ← readSystem (last? "vfs" parameters)
  .ok
    { home := homeOf name access isShared isInMemory
      access := access
      isShared := isShared
      isImmutable := ((parameters.lookup "immutable").map isOn).getD false }

/-- How the database with a name is reached. -/
def read (name : String) : Except DatabaseFault Address :=
  if scheme.isPrefixOf name.toList then
    readParts (name.toList.drop scheme.length)
  else
    .ok
      { home := homeOf name .creating false false
        access := .creating
        isShared := false
        isImmutable := false }

end Address

end RecordStore
