import RecordStore.Yaml.Located

/-!
# Gaps inside scalars

A scalar may run over several lines.  The gap between two of its parts
stands for its spaces if it stays on one line.  Otherwise the spaces around
the breaks are dropped and the breaks are folded: a single one becomes a
space, and of several the first is dropped.
-/

namespace RecordStore.Yaml

/-- What stands between two parts of a scalar. -/
structure Gap where
  spaces : List Char
  lines : List Located
  deriving DecidableEq, Repr

namespace Gap

/-- The gap at the front of characters; `skipGap` gives the characters after it. -/
def next (chars : List Located) : Gap :=
  { spaces := (chars.takeWhile fun c => isSpace c.char).map Located.char
    lines := (skipSpaces chars).takeWhile fun c => isGap c.char }

/-- The line breaks of a gap. -/
def breaks (gap : Gap) : List Char :=
  (gap.lines.map Located.char).filter isBreak

/-- The gap has a line break. -/
def isBroken (gap : Gap) : Bool :=
  !gap.lines.isEmpty

/-- What line breaks stand for inside a scalar. -/
def fold : List Char → List Char
  | [] => []
  | first :: more =>
      if first = '\n' then
        if more.isEmpty then [' '] else more
      else
        first :: more

/-- What a gap stands for inside a scalar. -/
def text (gap : Gap) : List Char :=
  if gap.isBroken then fold gap.breaks else gap.spaces

/-- A tab stands where the indentation up to a margin is due. -/
def hasTabBefore (gap : Gap) (margin : Nat) : Bool :=
  gap.lines.any fun c => c.char == '\t' && c.column < margin

end Gap

end RecordStore.Yaml
