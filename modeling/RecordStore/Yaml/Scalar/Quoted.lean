import RecordStore.Json.Reader
import RecordStore.Yaml.Gap

/-!
# Quoted scalars

A scalar between single quotes holds every character as it is, a quote
written twice.  Between double quotes a backslash escapes: it names a
character by a letter or by its number, and at the end of a line it joins
the line with the next.  Gaps are folded in both.
-/

namespace RecordStore.Yaml.Quoted

/-- The two kinds of quotes. -/
inductive Quote where
  | single
  | double
  deriving DecidableEq, Repr

namespace Quote

/-- The character that opens and closes a scalar. -/
def char : Quote → Char
  | single => '\x27'
  | double => '\x22'

end Quote

/-- Where reading stands between double quotes. -/
inductive Escape where
  | none
  | begun
  | number (missing value : Nat)
  deriving DecidableEq, Repr

/-- The characters that a letter after a backslash names. -/
def namedCharacters : List (Char × Char) :=
  [('0', '\x00'), ('a', '\x07'), ('b', '\x08'), ('t', '\t'), ('\t', '\t'), ('n', '\n'),
    ('v', '\x0b'), ('f', '\x0c'), ('r', '\r'), ('e', '\x1b'), (' ', ' '), ('\x22', '\x22'),
    ('/', '/'), ('\\', '\\'), ('N', '\x85'), ('_', '\xa0'), ('L', '\u2028'), ('P', '\u2029')]

/-- The number of digits that a letter after a backslash asks for. -/
def digitCounts : List (Char × Nat) :=
  [('x', 2), ('u', 4), ('U', 8)]

/-- The character with a number, if there is one. -/
def character? (number : Nat) : Option Char :=
  if number.isValidChar then some (Char.ofNat number) else none

/-- A part of a quoted scalar that has no gap in it. -/
structure Part where
  text : List Char
  joinsLines : Bool
  rest : List Located
  deriving DecidableEq, Repr

namespace Part

/-- The part with a character in front. -/
def cons (c : Char) (part : Part) : Part :=
  { part with text := c :: part.text }

end Part

/-- The part of a scalar between single quotes up to the next gap or a quote that is not doubled. -/
def singlePart : List Located → Part
  | [] => ⟨[], false, []⟩
  | c :: rest =>
      if isGap c.char then
        ⟨[], false, c :: rest⟩
      else if c.char = Quote.single.char then
        match rest with
        | next :: later =>
            if next.char = Quote.single.char then
              (singlePart later).cons c.char
            else
              ⟨[], false, c :: rest⟩
        | [] => ⟨[], false, c :: rest⟩
      else
        (singlePart rest).cons c.char

/-- The part of a scalar between double quotes up to the next gap or quote that is not escaped. -/
def doublePart : Escape → List Located → Option Part
  | .none, [] => some ⟨[], false, []⟩
  | .none, c :: rest =>
      if isGap c.char || c.char = Quote.double.char then
        some ⟨[], false, c :: rest⟩
      else if c.char = '\\' then
        doublePart .begun rest
      else
        (doublePart .none rest).map fun part => part.cons c.char
  | .begun, c :: rest =>
      if isBreak c.char then
        some ⟨[], true, rest⟩
      else
        match namedCharacters.lookup c.char with
        | some named => (doublePart .none rest).map fun part => part.cons named
        | none =>
            match digitCounts.lookup c.char with
            | some count => doublePart (.number count 0) rest
            | none => none
  | .number missing value, c :: rest =>
      match Json.hexValue? c.char with
      | none => none
      | some digit =>
          let value := 16 * value + digit
          if 1 < missing then
            doublePart (.number (missing - 1) value) rest
          else
            match character? value with
            | some named => (doublePart .none rest).map fun part => part.cons named
            | none => none
  | _, [] => none

/-- The next part of a scalar between the given quotes. -/
def part (quote : Quote) (chars : List Located) : Option Part :=
  match quote with
  | .single => some (singlePart chars)
  | .double => doublePart .none chars

/-- A part has ended: at a gap, at a quote, with the text or after an escaped line break. -/
def Part.StopsIn (part : Part) (quote : Quote) (chars : List Located) : Prop :=
  match part.rest with
  | [] => True
  | c :: _ =>
      if part.joinsLines then
        part.rest.length < chars.length
      else
        part.rest.length ≤ chars.length ∧ (isGap c.char = true ∨ c.char = quote.char)

theorem Part.StopsIn.of_le
    {part : Part}
    {quote : Quote}
    {chars longer : List Located}
    (stops : part.StopsIn quote chars)
    (longerThan : chars.length ≤ longer.length) :
    part.StopsIn quote longer := by
  unfold Part.StopsIn at *
  split
  · trivial
  · split <;> simp_all <;> omega

theorem Part.StopsIn.cons
    {part : Part}
    {quote : Quote}
    {chars : List Located}
    (stops : part.StopsIn quote chars)
    (c : Char) :
    (part.cons c).StopsIn quote chars :=
  stops

theorem singlePart_stopsIn (chars : List Located) :
    (singlePart chars).StopsIn .single chars := by
  fun_induction singlePart chars with
  | case1 => trivial
  | case2 c rest gap => simp [Part.StopsIn, gap]
  | case3 c notGap quote next later doubled inductionHypothesis =>
      exact (inductionHypothesis.of_le (by simp; omega)).cons _
  | case4 c notGap quote next later single => simp [Part.StopsIn, quote]
  | case5 c notGap quote => simp [Part.StopsIn, quote]
  | case6 c rest notGap notQuote inductionHypothesis =>
      exact (inductionHypothesis.of_le (by simp)).cons _

theorem stopsIn_of_map_cons
    {quote : Quote}
    {chars : List Located}
    {c : Char}
    {result : Option Part}
    {found : Part}
    (stops : ∀ {part : Part}, result = some part → part.StopsIn quote chars)
    (reads : result.map (fun part => part.cons c) = some found) :
    found.StopsIn quote chars := by
  obtain ⟨part, isResult, equal⟩ := Option.map_eq_some_iff.1 reads
  exact equal ▸ (stops isResult).cons c

theorem doublePart_stopsIn
    {escape : Escape}
    {chars : List Located}
    {found : Part}
    (reads : doublePart escape chars = some found) :
    found.StopsIn .double chars := by
  fun_induction doublePart escape chars generalizing found with
  | case1 =>
      cases reads
      trivial
  | case2 c rest stop =>
      cases reads
      simpa [Part.StopsIn] using stop
  | case3 c rest notStop backslash inductionHypothesis =>
      exact (inductionHypothesis reads).of_le (by simp)
  | case4 c rest notStop notBackslash inductionHypothesis =>
      exact (stopsIn_of_map_cons inductionHypothesis reads).of_le (by simp)
  | case5 c rest isBreak =>
      cases reads
      simp only [Part.StopsIn]
      split <;> simp
  | case6 c rest notBreak named isNamed inductionHypothesis =>
      exact (stopsIn_of_map_cons inductionHypothesis reads).of_le (by simp)
  | case7 c rest notBreak notNamed count isCount inductionHypothesis =>
      exact (inductionHypothesis reads).of_le (by simp)
  | case8 => cases reads
  | case9 => cases reads
  | case10 =>
      rename_i inductionHypothesis
      exact (inductionHypothesis reads).of_le (by simp)
  | case11 =>
      rename_i inductionHypothesis
      exact (stopsIn_of_map_cons inductionHypothesis reads).of_le (by simp)
  | case12 => cases reads
  | case13 => cases reads

theorem part_stopsIn
    {quote : Quote}
    {chars : List Located}
    {found : Part}
    (reads : part quote chars = some found) :
    found.StopsIn quote chars := by
  cases quote with
  | single =>
      simp only [part, Option.some.injEq] at reads
      rw [← reads]
      exact singlePart_stopsIn chars
  | double => exact doublePart_stopsIn reads

/-- What the gap after a part stands for; after an escaped break the other breaks stay. -/
def gapText (joinsLines : Bool) (chars : List Located) : List Char :=
  if joinsLines then
    ((chars.takeWhile fun c => isGap c.char).map Located.char).filter isBreak
  else
    (Gap.next chars).text

/-- Reads a scalar after its opening quote: its text, and the characters after the closing one. -/
def read (quote : Quote) (chars : List Located) : Option (List Char × List Located) :=
  if startsMarker chars then
    none
  else
    match _found : part quote chars with
    | none => none
    | some ⟨_, _, []⟩ => none
    | some ⟨text, joinsLines, c :: later⟩ =>
        if _isQuote : c.char = quote.char then
          some (text, later)
        else
          (read quote (skipGap (c :: later))).map fun more =>
            (text ++ gapText joinsLines (c :: later) ++ more.1, more.2)
termination_by chars.length
decreasing_by
  have stops := part_stopsIn _found
  have gapShorter := length_skipGap_le (c :: later)
  simp only [Part.StopsIn] at stops
  split at stops
  · omega
  · have gap := stops.2.resolve_right _isQuote
    have gapShorter : (skipGap (c :: later)).length < (c :: later).length :=
      length_skipGap_lt gap
    omega

end RecordStore.Yaml.Quoted
