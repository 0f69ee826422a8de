import RecordStore.Yaml.Gap

/-!
# Plain scalars

A plain scalar stands without quotes.  It ends before a colon that a gap
follows, before a comment, at a line with less indentation and at the mark
of a document; between the brackets of a flow collection it also ends at
their own characters.
-/

namespace RecordStore.Yaml.Plain

/-- The characters that separate the entries of flow collections. -/
def isFlowIndicator (c : Char) : Bool :=
  c == ',' || c == '[' || c == ']' || c == '\x7b' || c == '\x7d'

/-- A colon may not be followed by one of these between brackets. -/
def clashesWithColon : List Located → Bool
  | [] => false
  | c :: _ => isFlowIndicator c.char || c.char == '?'

/--
The part of a plain scalar up to the next gap or the end of the scalar, and
the characters after it.
-/
def word (inFlow : Bool) : List Located → Option (List Char × List Located)
  | [] => some ([], [])
  | c :: rest =>
      if isGap c.char then
        some ([], c :: rest)
      else if inFlow && c.char == ':' && clashesWithColon rest then
        none
      else if c.char == ':' && startsGap rest then
        some ([], c :: rest)
      else if inFlow && isFlowIndicator c.char then
        some ([], c :: rest)
      else
        (word inFlow rest).map fun parts => (c.char :: parts.1, parts.2)

theorem length_word_le
    {inFlow : Bool}
    {chars : List Located}
    {parts : List Char × List Located}
    (found : word inFlow chars = some parts) :
    parts.2.length ≤ chars.length := by
  induction chars generalizing parts with
  | nil =>
      simp only [word, Option.some.injEq] at found
      simp [← found]
  | cons c rest inductionHypothesis =>
      rw [word] at found
      split at found
      · simp only [Option.some.injEq] at found
        simp [← found]
      · split at found
        · simp at found
        · split at found
          · simp only [Option.some.injEq] at found
            simp [← found]
          · split at found
            · simp only [Option.some.injEq] at found
              simp [← found]
            · obtain ⟨later, laterFound, equal⟩ := Option.map_eq_some_iff.1 found
              have shorter := inductionHypothesis laterFound
              rw [← equal, List.length_cons]
              exact Nat.le_succ_of_le shorter

/-- What reading a plain scalar yields. -/
structure Result where
  text : List Char
  endsLine : Bool
  rest : List Located
  deriving DecidableEq, Repr

/-- Less than the margin's number of columns is left of the next character. -/
def isLeftOf (margin : Nat) : List Located → Bool
  | [] => false
  | c :: _ => c.column < margin

/-- Text, then a gap and more text; a gap at the end is dropped. -/
def join (text : List Char) (gap : Gap) (more : List Char) : List Char :=
  if more.isEmpty then text else text ++ gap.text ++ more

/--
Reads a plain scalar whose lines are indented up to a margin.

`afterBreak` tells that the gap before the characters, if any, has a line
break.
-/
def readFrom
    (inFlow : Bool)
    (margin : Nat)
    (afterBreak : Bool)
    (chars : List Located) :
    Option Result :=
  if startsMarker chars || startsWith '#' chars then
    some ⟨[], afterBreak, chars⟩
  else
    match _found : word inFlow chars with
    | none => none
    | some (text, []) => some ⟨text, afterBreak && text.isEmpty, []⟩
    | some (text, c :: rest) =>
        if _isGapNext : isGap c.char = true then
          let gap := Gap.next (c :: rest)
          let after := skipGap (c :: rest)
          if gap.hasTabBefore margin then
            none
          else if !inFlow && isLeftOf margin after then
            some ⟨text, gap.isBroken, after⟩
          else
            (readFrom inFlow margin gap.isBroken after).map fun more =>
              { more with text := join text gap more.text }
        else
          some ⟨text, afterBreak && text.isEmpty, c :: rest⟩
termination_by chars.length
decreasing_by
  have shorter := length_word_le _found
  have gapShorter : (skipGap (c :: rest)).length < (c :: rest).length :=
    length_skipGap_lt _isGapNext
  simp only at shorter
  omega

/-- Reads a plain scalar. -/
def read (inFlow : Bool) (margin : Nat) (chars : List Located) : Option Result :=
  readFrom inFlow margin false chars

end RecordStore.Yaml.Plain
