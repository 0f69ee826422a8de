import RecordStore.Sql.Condition
import RecordStore.Text.Utf8

/-!
# The layout of conditions

The database points at a place in the text of a statement when it refuses
it.  The functions here say where the names of columns stand, where the
placeholder stands that is one too many, and how deeply a condition nests
for the database.
-/

namespace RecordStore.Sql.Condition

variable {α : Type}

/-- How many bytes the text of a condition has. -/
def width : Condition α → Nat
  | and left right => left.width + " AND ".utf8ByteSize + right.width
  | or left right => left.width + " OR ".utf8ByteSize + right.width
  | paren inner => 1 + inner.width + 1
  | compare column comparison operand =>
      Utf8.byteCount (compare column comparison operand).write
  | member column negated operands =>
      Utf8.byteCount (member column negated operands).write
  | isNull column negated => Utf8.byteCount (isNull column negated : Condition α).write

/-- The width is that of the text. -/
theorem byteCount_write (condition : Condition α) :
    Utf8.byteCount condition.write = condition.width := by
  induction condition with
  | compare | member | isNull => rfl
  | and left right leftSame rightSame
  | or left right leftSame rightSame =>
      simp only [write, width, Utf8.byteCount_append, leftSame, rightSame]
      rfl
  | paren inner same =>
      simp only [write, width, Utf8.byteCount_append, Utf8.byteCount_cons, same]
      rfl

/-- The columns of a condition with the offsets of their names; the text starts at `start`. -/
def columnPlaces (start : Nat) : Condition α → List (String × Nat)
  | compare column _ _ => [(column, start)]
  | member column _ _ => [(column, start)]
  | isNull column _ => [(column, start)]
  | and left right =>
      left.columnPlaces start ++
        right.columnPlaces (start + left.width + " AND ".utf8ByteSize)
  | or left right =>
      left.columnPlaces start ++
        right.columnPlaces (start + left.width + " OR ".utf8ByteSize)
  | paren inner => inner.columnPlaces (start + 1)

/--
The height of the tree that the database builds for a condition.

Parentheses leave no node.  Membership in a set of one is turned into a
comparison with its only member, which nests one level deeper, and a
negation adds a level.
-/
def height : Condition α → Nat
  | compare _ _ _ => 2
  | member _ negated operands =>
      (if operands.length = 1 then 3 else 2) + (if negated then 1 else 0)
  | isNull _ _ => 2
  | and left right => max left.height right.height + 1
  | or left right => max left.height right.height + 1
  | paren inner => inner.height

/-- The offset of the placeholder that comes after as many others as are allowed. -/
def excessPlaceholder? (allowed offset : Nat) : List Char → Option Nat
  | [] => none
  | c :: rest =>
      if c = '?' then
        match allowed with
        | 0 => some offset
        | allowed + 1 => excessPlaceholder? allowed (offset + 1) rest
      else
        excessPlaceholder? allowed (offset + c.utf8Size) rest

end RecordStore.Sql.Condition
