import RecordStore.Yaml.Gap

/-!
# Block scalars

A block scalar holds whole lines, all of them indented alike.  Its header
says whether the line breaks are kept or folded, what becomes of the breaks
at the end, and possibly how deep the lines are indented; otherwise the first
line that is not blank shows it.
-/

namespace RecordStore.Yaml.Block

/-- What becomes of the line breaks at the end of a block scalar. -/
inductive Chomping where
  | strip
  | clip
  | keep
  deriving DecidableEq, Repr

/-- The header of a block scalar, after the character that opens it. -/
structure Header where
  chomping : Chomping
  increment : Option Nat
  deriving DecidableEq, Repr

/-- The chomping that a character asks for. -/
def chomping? : Char → Option Chomping
  | '-' => some .strip
  | '+' => some .keep
  | _ => none

/-- Reads the number of columns in a header; zero is refused. -/
def readIncrement (chars : List Located) : Option (Option Nat × List Located) :=
  match chars with
  | [] => some (none, [])
  | c :: rest =>
      if c.char = '0' then none
      else if c.char.isDigit then some (some (c.char.toNat - 48), rest)
      else some (none, chars)

/-- Reads the chomping in a header. -/
def readChomping (chars : List Located) : Option Chomping × List Located :=
  match chars with
  | [] => (none, [])
  | c :: rest =>
      match chomping? c.char with
      | some chomping => (some chomping, rest)
      | none => (none, chars)

/-- Reads the header; its two parts may come in either order. -/
def readHeader (chars : List Located) : Option (Header × List Located) := do
  let (chomping, rest) := readChomping chars
  let (increment, rest) ← readIncrement rest
  match chomping with
  | some chomping => some (⟨chomping, increment⟩, rest)
  | none =>
      if increment.isNone then
        some (⟨.clip, none⟩, rest)
      else
        let (chomping, rest) := readChomping rest
        some (⟨chomping.getD .clip, increment⟩, rest)

/-- The next line; up to it only spaces and a comment may stand. -/
def nextLine (chars : List Located) : Option (List Located) :=
  let rest := skipSpaces chars
  let rest := if startsWith '#' rest then skipLine rest else rest
  match rest with
  | [] => some []
  | c :: later => if isBreak c.char then some later else none

/-- What blank lines leave behind. -/
structure Blanks where
  breaks : List Char
  deepest : Nat
  rest : List Located
  deriving DecidableEq, Repr

/--
Skips blank lines and the indentation of the line after them.

The indentation ends at the given column, or with the spaces if it is not
known yet; a tab must not stand in it.
-/
def skipBlanks (indent : Option Nat) : List Located → Option Blanks
  | [] => some ⟨[], 0, []⟩
  | c :: rest =>
      let inIndent := indent.all fun column => c.column < column
      if inIndent && c.char == ' ' then
        skipBlanks indent rest
      else if inIndent && c.char == '\t' then
        none
      else if isBreak c.char then
        (skipBlanks indent rest).map fun blanks =>
          { blanks with
            breaks := c.char :: blanks.breaks
            deepest := max c.column blanks.deepest }
      else
        some ⟨[], c.column, c :: rest⟩

theorem length_skipBlanks_le
    {indent : Option Nat}
    {chars : List Located}
    {blanks : Blanks}
    (skips : skipBlanks indent chars = some blanks) :
    blanks.rest.length ≤ chars.length := by
  fun_induction skipBlanks indent chars generalizing blanks with
  | case1 =>
      cases skips
      simp
  | case2 =>
      rename_i inductionHypothesis
      exact Nat.le_succ_of_le (inductionHypothesis skips)
  | case3 => cases skips
  | case4 =>
      rename_i inductionHypothesis
      obtain ⟨later, skipsLater, equal⟩ := Option.map_eq_some_iff.1 skips
      have shorter := inductionHypothesis skipsLater
      rw [← equal, List.length_cons]
      exact Nat.le_succ_of_le shorter
  | case5 =>
      cases skips
      exact Nat.le_refl _

/-- A line of a block scalar that is not blank. -/
structure Line where
  text : List Char
  lineBreak : Option Char
  following : List Char
  deriving DecidableEq, Repr

/-- Reads lines as long as they are indented to a column. -/
def readLines (indent : Nat) (chars : List Located) : Option (List Line × List Located) :=
  match chars with
  | [] => some ([], [])
  | first :: others =>
      if first.column ≠ indent then
        some ([], chars)
      else
        let text := (chars.takeWhile fun c => !isBreak c.char).map Located.char
        match _rest : skipLine (first :: others) with
        | [] => some ([⟨text, none, []⟩], [])
        | lineBreak :: later =>
            match _blanks : skipBlanks (some indent) later with
            | none => none
            | some blanks =>
                (readLines indent blanks.rest).map fun more =>
                  (⟨text, some lineBreak.char, blanks.breaks⟩ :: more.1, more.2)
termination_by chars.length
decreasing_by
  have shorter := length_skipBlanks_le _blanks
  have lineShorter : (skipLine (first :: others)).length ≤ (first :: others).length :=
    length_dropWhile_le _ _
  rw [_rest, List.length_cons] at lineShorter
  omega

/-! ## The text of a block scalar -/

namespace Line

/-- The line starts with a space of its own. -/
def isIndented (line : Line) : Bool :=
  match line.text with
  | [] => false
  | c :: _ => isSpace c

/-- All breaks from the end of a line to the next one. -/
def breaks (line : Line) : List Char :=
  line.lineBreak.toList ++ line.following

/-- What the breaks between two lines stand for. -/
def separator (folded : Bool) (line next : Line) : List Char :=
  if folded && line.lineBreak == some '\n' && !line.isIndented && !next.isIndented then
    if line.following.isEmpty then [' '] else line.following
  else
    line.breaks

/-- What the breaks after the last line stand for. -/
def ending (chomping : Chomping) (line : Line) : List Char :=
  match chomping with
  | .strip => []
  | .clip => line.lineBreak.toList
  | .keep => line.breaks

end Line

/-- The text of lines. -/
def linesText (folded : Bool) (chomping : Chomping) : List Line → List Char
  | [] => []
  | [line] => line.text ++ line.ending chomping
  | line :: next :: rest =>
      line.text ++ line.separator folded next ++ linesText folded chomping (next :: rest)

/-- The text of a block scalar with blank lines before the others. -/
def text
    (folded : Bool)
    (chomping : Chomping)
    (breaks : List Char)
    (lines : List Line) :
    List Char :=
  if lines.isEmpty then
    if chomping = .keep then breaks else []
  else
    breaks ++ linesText folded chomping lines

/--
Reads a block scalar after the character that opens it: its text, and the
characters after it.

`margin` is the number of columns to which its surroundings are indented, if
they are, and `least` the least column at which its lines may start.
-/
def read
    (folded : Bool)
    (margin least : Nat)
    (chars : List Located) :
    Option (List Char × List Located) := do
  let (header, rest) ← readHeader chars
  let rest ← nextLine rest
  let given := header.increment.map fun increment => margin + increment
  let blanks ← skipBlanks given rest
  let indent := given.getD (max blanks.deepest (max least 1))
  let (lines, rest) ← readLines indent blanks.rest
  some (text folded header.chomping blanks.breaks lines, rest)

end RecordStore.Yaml.Block
