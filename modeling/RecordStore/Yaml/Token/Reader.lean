import RecordStore.Yaml.Layout
import RecordStore.Yaml.Name
import RecordStore.Yaml.Scalar.Block
import RecordStore.Yaml.Scalar.Plain
import RecordStore.Yaml.Scalar.Quoted

/-!
# Reading tokens

A text is cut into tokens from left to right.  Between two tokens stand
spaces, line breaks and comments; a line break outside of brackets lets a key
start again.  Every token takes at least one character, which bounds the
number of steps.
-/

namespace RecordStore.Yaml.Token

/--
Skips what stands between two tokens, and says whether a key may start then.

A tab in front of a key would be indentation, so it is skipped elsewhere
only.  A line may start with a mark of the byte order, which counts as a
column.
-/
def skipBetween
    (inFlow : Bool) :
    (allowsKey inComment : Bool) →
    List Located →
    Bool × List Located
  | allowsKey, _, [] => (allowsKey, [])
  | allowsKey, inComment, c :: rest =>
      if isBreak c.char then
        skipBetween inFlow (allowsKey || !inFlow) false rest
      else if inComment || c.char == ' ' ||
          (c.char == '\t' && (inFlow || !allowsKey)) ||
          (c.char == byteOrderMark && c.column == 0) then
        skipBetween inFlow allowsKey inComment rest
      else if c.char == '#' then
        skipBetween inFlow allowsKey true rest
      else
        (allowsKey, c :: rest)

/-- The characters with a meaning of their own that no plain scalar starts with. -/
def reserved : List Char :=
  ",[]\x7b\x7d#&*!|>\x27\x22%@\x60".toList

/-- A character that a plain scalar may start with. -/
def startsPlain (c : Char) : Bool :=
  !isGap c && !reserved.contains c

/-- Reads a plain scalar. -/
def readPlain (layout : Layout) (place : Located) (chars : List Located) :
    Option (Layout × List Located) := do
  let result ← Plain.read layout.inFlow layout.least chars
  let layout ← layout.addPart place (.scalar true (String.ofList result.text))
  some ({ layout with allowsKey := result.endsLine }, result.rest)

/-- Reads a quoted scalar after its opening quote. -/
def readQuoted
    (layout : Layout)
    (place : Located)
    (quote : Quoted.Quote)
    (chars : List Located) :
    Option (Layout × List Located) := do
  let (text, rest) ← Quoted.read quote chars
  let layout ← layout.addPart place (.scalar false (String.ofList text))
  some (layout, rest)

/-- Reads a block scalar after the character that opens it. -/
def readBlock (layout : Layout) (folded : Bool) (chars : List Located) :
    Option (Layout × List Located) := do
  let (text, rest) ← Block.read folded layout.margin layout.least chars
  let layout ← layout.addBlock (.scalar false (String.ofList text))
  some (layout, rest)

/-- Reads a directive after its percent sign. -/
def readDirective (layout : Layout) (chars : List Located) :
    Option (Layout × List Located) := do
  let (token, rest) ← Name.readDirective chars
  let layout ← layout.addMarker token
  some (layout, rest)

/-- Reads the name of a node after the character that announces it. -/
def readName
    (layout : Layout)
    (place : Located)
    (token : String → Token)
    (chars : List Located) :
    Option (Layout × List Located) := do
  let (name, rest) ← Name.readNode chars
  let layout ← layout.addPart place (token name)
  some (layout, rest)

/-- Reads a tag after its exclamation mark. -/
def readTag (layout : Layout) (place : Located) (chars : List Located) :
    Option (Layout × List Located) := do
  let (token, rest) ← Name.readTag layout.inFlow chars
  let layout ← layout.addPart place token
  some (layout, rest)

/-- Pairs a layout, if there is one, with the characters after its last token. -/
def before (rest : List Located) (layout : Option Layout) : Option (Layout × List Located) :=
  layout.map fun layout => (layout, rest)

/-- Reads the token that starts with a character. -/
def readNext (layout : Layout) (c : Located) (rest : List Located) :
    Option (Layout × List Located) :=
  if c.column = 0 ∧ c.char = '%' then
    readDirective layout rest
  else if startsTriple '-' (c :: rest) then
    before (rest.drop 2) (layout.addMarker .documentStart)
  else if startsTriple '.' (c :: rest) then
    before (rest.drop 2) (layout.addMarker .documentEnd)
  else if c.char = '[' then
    before rest (layout.addOpening c .sequenceStart)
  else if c.char = '\x7b' then
    before rest (layout.addOpening c .mappingStart)
  else if c.char = ']' then
    before rest (layout.addClosing .sequenceEnd)
  else if c.char = '\x7d' then
    before rest (layout.addClosing .mappingEnd)
  else if c.char = ',' then
    before rest layout.addComma
  else if c.char = '-' ∧ startsGap rest then
    before rest (layout.addEntry c)
  else if c.char = '?' ∧ (layout.inFlow || startsGap rest) then
    before rest (layout.addKey c)
  else if c.char = ':' ∧ (layout.inFlow || startsGap rest) then
    before rest (layout.addValue c)
  else if c.char = '*' then
    readName layout c .alias rest
  else if c.char = '&' then
    readName layout c .anchor rest
  else if c.char = '!' then
    readTag layout c rest
  else if c.char = '|' ∧ !layout.inFlow then
    readBlock layout false rest
  else if c.char = '>' ∧ !layout.inFlow then
    readBlock layout true rest
  else if c.char = Quoted.Quote.single.char then
    readQuoted layout c .single rest
  else if c.char = Quoted.Quote.double.char then
    readQuoted layout c .double rest
  else if startsPlain c.char then
    readPlain layout c (c :: rest)
  else
    none

/-- Reads at most a number of tokens, up to the end of the text. -/
def readFrom : Nat → Layout → List Located → Option (List Token)
  | 0, _, _ => none
  | bound + 1, layout, chars =>
      match skipBetween layout.inFlow layout.allowsKey false chars with
      | (_, []) => layout.finish
      | (allowsKey, c :: rest) => do
          let current ← { layout with allowsKey := allowsKey }.expireKeyStarts c
          let (layout, rest) ← readNext (current.closeTo c.column) c rest
          readFrom bound layout rest

/-- The tokens of a text; a text that breaks a rule of the notation has none. -/
def read? (text : String) : Option (List Token) := do
  let chars ← locate? text
  readFrom (chars.length + 1) .initial chars

end RecordStore.Yaml.Token
