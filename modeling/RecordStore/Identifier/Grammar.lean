import RecordStore.Identifier
import RecordStore.Text.Utf8

/-!
# Names that are safe in SQL text

Which names are identifiers can be said without checking them rule by rule:
by the ranges of ASCII that their characters come from, by how many characters
there are, and by the words that the table of reserved words lists.

The table can also be searched by bytes.  An order then tells of each entry on
which side of the searched word it stands, and small letters of the word count
as capitals while its bytes are compared.
-/

namespace RecordStore

namespace Keyword

/-- The byte of a capital for that of a small ASCII letter, and any other byte as it is. -/
def upperByte (byte : UInt8) : UInt8 :=
  if 97 ≤ byte.toNat ∧ byte.toNat ≤ 122 then byte - 32 else byte

/-- Where an entry stands to a word, by the first byte that differs. -/
def byteOrder (word entry : String) : Ordering :=
  compare (Utf8.encode entry) ((Utf8.encode word).map upperByte)

/-- Looks for an entry from `low` up to, not including, `high` that the order finds equal. -/
def searchBy
    {α : Type}
    (order : α → Ordering)
    (entries : Array α)
    (low high : Nat)
    (bounded : high ≤ entries.size) :
    Bool :=
  if nonempty : low < high then
    let middle := (low + high) / 2
    have inside : middle < high := by omega
    match order entries[middle] with
    | .lt => searchBy order entries (middle + 1) high bounded
    | .eq => true
    | .gt => searchBy order entries low middle (by omega)
  else
    false
termination_by high - low

end Keyword

namespace Identifier

/-- A letter of ASCII. -/
def IsLetter (c : Char) : Prop :=
  'A' ≤ c ∧ c ≤ 'Z' ∨ 'a' ≤ c ∧ c ≤ 'z'

/-- A digit of ASCII. -/
def IsDigit (c : Char) : Prop :=
  '0' ≤ c ∧ c ≤ '9'

/-- The name can stand unquoted in SQL text. -/
structure IsSafe (name : String) : Prop where
  hasCharacter : 1 ≤ name.length
  isShort : name.length ≤ 64
  starts : ∀ c ∈ name.toList.head?, IsLetter c ∨ c = '_'
  continues : ∀ c ∈ name.toList.tail, IsLetter c ∨ IsDigit c ∨ c = '_'
  isFree : Text.upper name ∉ Keyword.table

end Identifier

end RecordStore
