import RecordStore.Operator
import RecordStore.Sql.Truth
import RecordStore.Text.Utf8

/-!
# Cells

A cell of a table holds null, a number, a text or a blob; texts and blobs
are kept as bytes.  Cells that are not null are ordered: numbers by value,
whole ones and doubles alike, then texts, then blobs, both by their bytes.
Comparing with null gives an unknown.
-/

namespace RecordStore

/-- What a row holds in one column. -/
inductive Cell where
  | null
  | integer (number : Int64)
  | real (number : Double)
  | text (bytes : List UInt8)
  | blob (bytes : List UInt8)
  deriving DecidableEq, Repr

/-- Why a cell cannot be read as a value. -/
inductive CellFault where
  | blob
  | malformedText (fault : Utf8.Fault)
  deriving DecidableEq, Repr

namespace Cell

/-- The cell that a value is stored as: flags become 0 and 1, and a NaN becomes null. -/
def ofValue : Value → Cell
  | .null => null
  | .boolean flag => integer (if flag then 1 else 0)
  | .integer number => integer number
  | .real number => if number.isNaN then null else real number
  | .text content => text (Utf8.encode content)

/-- The value that a cell is read as. -/
def toValue : Cell → Except CellFault Value
  | null => .ok .null
  | integer number => .ok (.integer number)
  | real number => .ok (.real number)
  | text bytes =>
      match Utf8.decode bytes with
      | .ok content => .ok (.text content)
      | .error fault => .error (.malformedText fault)
  | blob _ => .error .blob

/-- The cell is null. -/
def isNull : Cell → Bool
  | null => true
  | _ => false

/-- The order of byte sequences: by the first byte that differs, a proper beginning first. -/
def compareBytes : List UInt8 → List UInt8 → Ordering
  | [], [] => .eq
  | [], _ :: _ => .lt
  | _ :: _, [] => .gt
  | left :: leftRest, right :: rightRest =>
      if left < right then .lt
      else if right < left then .gt
      else compareBytes leftRest rightRest

/-- What the order of cells looks at. -/
inductive Key where
  | number (units : Int)
  | text (bytes : List UInt8)
  | blob (bytes : List UInt8)
  deriving DecidableEq, Repr

/-- The key of a cell that is not null. -/
def key? : Cell → Option Key
  | null => none
  | integer number => some (.number (number.toInt * Double.unitsPerOne))
  | real number => some (.number number.units)
  | text bytes => some (.text bytes)
  | blob bytes => some (.blob bytes)

/-- The order of keys. -/
def Key.compare : Key → Key → Ordering
  | number left, number right => Ord.compare left right
  | number _, _ => .lt
  | text _, number _ => .gt
  | text left, text right => compareBytes left right
  | text _, blob _ => .lt
  | blob left, blob right => compareBytes left right
  | blob _, _ => .gt

/-- The order of two cells, if neither is null. -/
def compare? (left right : Cell) : Option Ordering :=
  match left.key?, right.key? with
  | some left, some right => some (left.compare right)
  | _, _ => none

end Cell

namespace Comparison

/-- The comparison holds of two things in an order. -/
def admits : Comparison → Ordering → Bool
  | equal, order => order == .eq
  | notEqual, order => order != .eq
  | greater, order => order == .gt
  | greaterOrEqual, order => order != .lt
  | less, order => order == .lt
  | lessOrEqual, order => order != .gt

/-- The outcome of comparing two cells; unknown when either is null. -/
def outcome (comparison : Comparison) (left right : Cell) : Sql.Truth :=
  match left.compare? right with
  | none => .unknown
  | some order => Sql.Truth.ofBool (comparison.admits order)

end Comparison

end RecordStore
