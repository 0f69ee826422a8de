import RecordStore.Yaml.Located
import RecordStore.Yaml.Token

/-!
# Layout

While a text is cut into tokens, its layout is kept track of: how far the
block collections around the current place are indented, in how many pairs of
brackets the place is, and where something has started that only a colon
after it will show to be a key.

A key without a mark of its own stays on one line and within a number of
columns.  What starts at the indentation of a block collection can be
nothing but a key, and it is a fault if no colon follows.
-/

namespace RecordStore.Yaml

/-- A place where a key may have started. -/
structure KeyStart where
  index : Nat
  isRequired : Bool
  line : Nat
  column : Nat
  deriving DecidableEq, Repr

/-- How far a text has been cut into tokens. -/
structure Layout where
  tokens : List Token
  indents : List Nat
  allowsKey : Bool
  keyStart : Option KeyStart
  outerKeyStarts : List (Option KeyStart)
  deriving DecidableEq, Repr

namespace Layout

/-- The layout at the start of a text. -/
def initial : Layout :=
  { tokens := []
    indents := []
    allowsKey := true
    keyStart := none
    outerKeyStarts := [] }

/-- The current place is between brackets. -/
def inFlow (layout : Layout) : Bool :=
  !layout.outerKeyStarts.isEmpty

/-- The column of the innermost block collection, or the first one. -/
def margin (layout : Layout) : Nat :=
  layout.indents.headD 0

/-- The least column at which a part of the innermost block collection may go on. -/
def least (layout : Layout) : Nat :=
  match layout.indents with
  | [] => 0
  | column :: _ => column + 1

/-- The layout with a further token. -/
def push (layout : Layout) (token : Token) : Layout :=
  { layout with tokens := layout.tokens ++ [token] }

/-- The layout with a token put after the first ones. -/
def insert (layout : Layout) (index : Nat) (token : Token) : Layout :=
  { layout with
    tokens := layout.tokens.take index ++ token :: layout.tokens.drop index }

/-! ## Indentation -/

/-- Closes the block collections whose columns satisfy a test; between brackets none ends. -/
def closeWhile (layout : Layout) (test : Nat → Bool) : Layout :=
  if layout.inFlow then
    layout
  else
    { layout with
      tokens :=
        layout.tokens ++
          List.replicate (layout.indents.takeWhile test).length .blockEnd
      indents := layout.indents.dropWhile test }

/-- Closes the block collections that a place is to the left of. -/
def closeTo (layout : Layout) (column : Nat) : Layout :=
  layout.closeWhile fun indent => column < indent

/-- Closes all block collections. -/
def closeAll (layout : Layout) : Layout :=
  layout.closeWhile fun _ => true

/-- Opens a block collection if its first entry is indented further than those that are open. -/
def openAt (layout : Layout) (column index : Nat) (token : Token) : Layout :=
  if layout.inFlow || column < layout.least then
    layout
  else
    { layout.insert index token with indents := column :: layout.indents }

/-! ## Brackets -/

/-- The layout after an opening bracket. -/
def openBrackets (layout : Layout) : Layout :=
  { layout with
    keyStart := none
    outerKeyStarts := layout.keyStart :: layout.outerKeyStarts }

/-- The layout after a closing bracket. -/
def closeBrackets (layout : Layout) : Layout :=
  match layout.outerKeyStarts with
  | [] => layout
  | keyStart :: outer =>
      { layout with
        keyStart := keyStart
        outerKeyStarts := outer }

/-! ## Keys -/

/-- The greatest number of columns that a key without a mark may take. -/
def maximalKey : Nat := 1024

/-- No key starts before the current place; one that is required must not be missing. -/
def dropKeyStart (layout : Layout) : Option Layout :=
  if layout.keyStart.any KeyStart.isRequired then
    none
  else
    some { layout with keyStart := none }

/-- A key may start at a place, if keys are allowed there. -/
def markKeyStart (layout : Layout) (place : Located) : Option Layout :=
  if layout.allowsKey then do
    let isRequired := !layout.inFlow && layout.indents.head? == some place.column
    let layout ← layout.dropKeyStart
    some
      { layout with
        keyStart := some
          { index := layout.tokens.length
            isRequired := isRequired
            line := place.line
            column := place.column } }
  else
    some layout

/-- A key that started at a place cannot last until another place. -/
def isPast (keyStart : KeyStart) (place : Located) : Bool :=
  keyStart.line < place.line || keyStart.column + maximalKey < place.column

/-- What is left of a place where a key may have started, at a later place. -/
def keep (place : Located) : Option KeyStart → Option (Option KeyStart)
  | none => some none
  | some keyStart =>
      if isPast keyStart place then
        if keyStart.isRequired then none else some none
      else
        some (some keyStart)

/-- Forgets the keys that cannot last until a place; a required one must not be missing. -/
def expireKeyStarts (layout : Layout) (place : Located) : Option Layout := do
  let keyStart ← keep place layout.keyStart
  let outer ← layout.outerKeyStarts.mapM (keep place)
  some { layout with keyStart := keyStart, outerKeyStarts := outer }

/--
The layout after the colon at a place.

What has started before becomes a key, and opens a mapping if its column
does.  Without that the key is empty or has its own mark.
-/
def addValue (layout : Layout) (place : Located) : Option Layout :=
  match layout.keyStart with
  | some start =>
      let marked := layout.insert start.index .key
      let opened := marked.openAt start.column start.index .blockMapping
      some ({ opened with keyStart := none, allowsKey := false }.push .value)
  | none =>
      if layout.inFlow || layout.allowsKey then
        let opened := layout.openAt place.column layout.tokens.length .blockMapping
        some ({ opened with allowsKey := !layout.inFlow }.push .value)
      else
        none

/-- The layout after the mark of a key, at a place. -/
def addKey (layout : Layout) (place : Located) : Option Layout :=
  if layout.inFlow || layout.allowsKey then do
    let opened := layout.openAt place.column layout.tokens.length .blockMapping
    let layout ← opened.dropKeyStart
    some ({ layout with allowsKey := !layout.inFlow }.push .key)
  else
    none

/-- The layout after the dash of an entry, at a place. -/
def addEntry (layout : Layout) (place : Located) : Option Layout :=
  if layout.inFlow || layout.allowsKey then do
    let opened := layout.openAt place.column layout.tokens.length .blockSequence
    let layout ← opened.dropKeyStart
    some ({ layout with allowsKey := true }.push .entry)
  else
    none

/-- The layout after an opening bracket at a place. -/
def addOpening (layout : Layout) (place : Located) (token : Token) : Option Layout := do
  let layout ← layout.markKeyStart place
  some ({ layout.openBrackets with allowsKey := true }.push token)

/-- The layout after a closing bracket. -/
def addClosing (layout : Layout) (token : Token) : Option Layout := do
  let layout ← layout.dropKeyStart
  some ({ layout.closeBrackets with allowsKey := false }.push token)

/-- The layout after a comma. -/
def addComma (layout : Layout) : Option Layout := do
  let layout ← layout.dropKeyStart
  some ({ layout with allowsKey := true }.push .comma)

/-- The layout after a token that belongs to no document or bounds one. -/
def addMarker (layout : Layout) (token : Token) : Option Layout := do
  let layout ← layout.closeAll.dropKeyStart
  some ({ layout with allowsKey := false }.push token)

/-- The layout after a token that a key may start with, at a place. -/
def addPart (layout : Layout) (place : Located) (token : Token) : Option Layout := do
  let layout ← layout.markKeyStart place
  some ({ layout with allowsKey := false }.push token)

/-- The layout after a block scalar, which no key can be. -/
def addBlock (layout : Layout) (token : Token) : Option Layout := do
  let layout ← layout.dropKeyStart
  some ({ layout with allowsKey := true }.push token)

/-- The tokens at the end of a text. -/
def finish (layout : Layout) : Option (List Token) := do
  let layout ← layout.closeAll.dropKeyStart
  some layout.tokens

end Layout

end RecordStore.Yaml
