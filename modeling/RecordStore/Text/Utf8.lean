/-!
# UTF-8

Texts are stored as bytes.  Encoding gives the bytes of a text; decoding
takes them back, and otherwise says where the bytes stop being UTF-8 and how
many of them can belong to no character.
-/

namespace RecordStore.Utf8

/-- Where bytes stop being UTF-8. -/
inductive Fault where
  | invalid (length index : Nat)
  | incomplete (index : Nat)
  deriving DecidableEq, Repr

/-- The bytes of a text. -/
def encode (text : String) : List UInt8 :=
  text.toByteArray.data.toList

/-- How many bytes characters take. -/
def byteCount (characters : List Char) : Nat :=
  characters.foldr (fun c count => c.utf8Size + count) 0

@[simp]
theorem byteCount_cons (c : Char) (rest : List Char) :
    byteCount (c :: rest) = c.utf8Size + byteCount rest :=
  rfl

@[simp]
theorem byteCount_append (left right : List Char) :
    byteCount (left ++ right) = byteCount left + byteCount right := by
  induction left with
  | nil => simp [byteCount]
  | cons c rest same => simp [same, Nat.add_assoc]

/--
The continuation bytes that a first byte asks for: how many, and the bounds
of the first of them.  A byte that starts no character has no answer.
-/
def expectation? (first : UInt8) : Option (Nat × UInt8 × UInt8) :=
  if first ≤ 0x7F then some (0, 0x80, 0xBF)
  else if 0xC2 ≤ first && first ≤ 0xDF then some (1, 0x80, 0xBF)
  else if first == 0xE0 then some (2, 0xA0, 0xBF)
  else if 0xE1 ≤ first && first ≤ 0xEC then some (2, 0x80, 0xBF)
  else if first == 0xED then some (2, 0x80, 0x9F)
  else if 0xEE ≤ first && first ≤ 0xEF then some (2, 0x80, 0xBF)
  else if first == 0xF0 then some (3, 0x90, 0xBF)
  else if 0xF1 ≤ first && first ≤ 0xF3 then some (3, 0x80, 0xBF)
  else if first == 0xF4 then some (3, 0x80, 0x8F)
  else none

/--
The fault of a byte sequence that is not UTF-8.

`start` is the index of the current character, `taken` the number of its
bytes so far, and `owed` the number still to come, the next of them between
`low` and `high`.
-/
def faultFrom (start taken owed : Nat) (low high : UInt8) : List UInt8 → Fault
  | [] => .incomplete start
  | byte :: rest =>
      match owed with
      | 0 =>
          let start := start + taken
          match expectation? byte with
          | none => .invalid 1 start
          | some (owed, low, high) => faultFrom start 1 owed low high rest
      | owed + 1 =>
          if low ≤ byte && byte ≤ high then
            faultFrom start (taken + 1) owed 0x80 0xBF rest
          else
            .invalid taken start

/-- The text with the given bytes, or where they stop being UTF-8. -/
def decode (bytes : List UInt8) : Except Fault String :=
  match String.fromUTF8? ⟨⟨bytes⟩⟩ with
  | some text => .ok text
  | none => .error (faultFrom 0 0 0 0x80 0xBF bytes)

/-- How many bytes belong to characters before a fault, and how many the fault takes. -/
def Fault.extent (bytes : List UInt8) : Fault → Nat × Nat
  | .invalid length index => (index, length)
  | .incomplete index => (index, bytes.length - index)

/-- The text with the given bytes, up to a number of faults each of which becomes one character. -/
def decodeReplacing (bytes : List UInt8) : Nat → String
  | 0 => ""
  | bound + 1 =>
      match decode bytes with
      | .ok text => text
      | .error fault =>
          let (before, length) := fault.extent bytes
          (decode (bytes.take before)).toOption.getD "" ++ "\uFFFD" ++
            decodeReplacing (bytes.drop (before + length)) bound

/-- The text with the given bytes; where they are not UTF-8, it has a replacement character. -/
def decodeLossy (bytes : List UInt8) : String :=
  decodeReplacing bytes (bytes.length + 1)

/-- What was encoded decodes to the same text. -/
@[simp]
theorem decode_encode (text : String) : decode (encode text) = .ok text := by
  have same : (⟨⟨text.toByteArray.data.toList⟩⟩ : ByteArray) = text.toByteArray := by
    cases text.toByteArray
    rfl
  simp only [decode, encode, same, String.fromUTF8?]
  rw [dif_pos text.isValidUTF8]
  rfl

namespace Fault

/-- What the fault says to a reader. -/
def message : Fault → String
  | invalid length index =>
      s!"invalid utf-8 sequence of {length} bytes from index {index}"
  | incomplete index => s!"incomplete utf-8 byte sequence from index {index}"

end Fault

end RecordStore.Utf8
