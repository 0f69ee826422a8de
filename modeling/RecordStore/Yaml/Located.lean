/-!
# Characters in their places

YAML gives meaning to lines and columns, so its texts are read as lists of
characters that know their places.  A line break is one character here, also
if it was written as two, and all breaks are written alike but for the two
separators of Unicode, which a scalar keeps.
-/

namespace RecordStore.Yaml

/-- A character with its line and its column, both counted from zero. -/
structure Located where
  char : Char
  line : Nat
  column : Nat
  deriving DecidableEq, Repr

/-- A character that may stand in a text. -/
def isPrintable (c : Char) : Bool :=
  c == '\t' || c == '\n' || c == '\r' || c.toNat == 0x85 ||
    (0x20 ≤ c.toNat && c.toNat ≤ 0x7E) ||
    (0xA0 ≤ c.toNat && c.toNat ≠ 0xFFFE && c.toNat ≠ 0xFFFF)

/-- A separator of lines or paragraphs. -/
def isSeparator (c : Char) : Bool :=
  c.toNat == 0x2028 || c.toNat == 0x2029

/-- A character that ends a line. -/
def isBreak (c : Char) : Bool :=
  c == '\n' || c == '\r' || c.toNat == 0x85 || isSeparator c

/-- A space or a tab. -/
def isSpace (c : Char) : Bool :=
  c == ' ' || c == '\t'

/-- A space, a tab or the end of a line. -/
def isGap (c : Char) : Bool :=
  isSpace c || isBreak c

/-- The characters of a text in their places, the first of them at the given place. -/
def locateFrom (line column : Nat) : List Char → List Located
  | [] => []
  | '\r' :: '\n' :: rest => ⟨'\n', line, column⟩ :: locateFrom (line + 1) 0 rest
  | c :: rest =>
      if isSeparator c then
        ⟨c, line, column⟩ :: locateFrom (line + 1) 0 rest
      else if isBreak c then
        ⟨'\n', line, column⟩ :: locateFrom (line + 1) 0 rest
      else
        ⟨c, line, column⟩ :: locateFrom line (column + 1) rest

/-- The mark of the byte order. -/
def byteOrderMark : Char := '\uFEFF'

/--
The characters of a text in their places; a text with a character that must
not stand in it has none.
-/
def locate? (text : String) : Option (List Located) :=
  if text.toList.all isPrintable then
    some (locateFrom 0 0 text.toList)
  else
    none

/-- A gap comes next, or the end of the text. -/
def startsGap : List Located → Bool
  | [] => true
  | c :: _ => isGap c.char

/-- The given character comes next. -/
def startsWith (char : Char) : List Located → Bool
  | [] => false
  | c :: _ => c.char == char

/-- A line starts here with the given character three times and a gap. -/
def startsTriple (char : Char) : List Located → Bool
  | first :: second :: third :: rest =>
      first.column == 0 && first.char == char && second.char == char &&
        third.char == char && startsGap rest
  | _ => false

/-- A line starts here that marks where a document starts or ends. -/
def startsMarker (chars : List Located) : Bool :=
  startsTriple '-' chars || startsTriple '.' chars

/-- The characters from the next one on that is no space. -/
def skipSpaces (chars : List Located) : List Located :=
  chars.dropWhile fun c => isSpace c.char

/-- The characters from the end of the line on. -/
def skipLine (chars : List Located) : List Located :=
  chars.dropWhile fun c => !isBreak c.char

/-- The characters from the next one on that is in no gap. -/
def skipGap (chars : List Located) : List Located :=
  chars.dropWhile fun c => isGap c.char

/-! ## Reading on makes the rest shorter -/

theorem length_dropWhile_le
    {α : Type}
    (test : α → Bool)
    (items : List α) :
    (items.dropWhile test).length ≤ items.length := by
  induction items with
  | nil => exact Nat.le_refl _
  | cons item rest inductionHypothesis =>
      rw [List.dropWhile_cons]
      split
      · exact Nat.le_succ_of_le inductionHypothesis
      · exact Nat.le_refl _

theorem length_skipGap_le (chars : List Located) :
    (skipGap chars).length ≤ chars.length :=
  length_dropWhile_le _ chars

theorem length_skipGap_lt
    {c : Located}
    {rest : List Located}
    (gap : isGap c.char = true) :
    (skipGap (c :: rest)).length < (c :: rest).length := by
  rw [skipGap, List.dropWhile_cons, if_pos gap]
  exact Nat.lt_succ_of_le (length_dropWhile_le _ rest)

end RecordStore.Yaml
