import RecordStore.Yaml.Name
import RecordStore.Yaml.Node
import RecordStore.Yaml.Token.Reader

/-!
# Documents

The tokens of a text form one document, or none at all.  Reading a node gives
back the tokens after it.  Of four readers in a row that call each other at
least one takes a token, which bounds the depth of recursion.
-/

namespace RecordStore.Yaml

/-- What the nodes read so far have declared. -/
structure Declarations where
  handles : List (String × String)
  names : List (String × Nat)
  deriving DecidableEq, Repr

namespace Declarations

/-- The handles that every document knows. -/
def knownHandles : List (String × String) :=
  [(Name.localHandle, "!"), (Name.sharedHandle, "tag:yaml.org,2002:")]

/-- The full tag that a handle and a suffix give. -/
def tag? (declarations : Declarations) (handle suffix : String) : Option String :=
  if handle = Name.noHandle then
    some suffix
  else
    ((declarations.handles ++ knownHandles).lookup handle).map fun address =>
      address ++ suffix

/-- A number for a name: as many names as there have been before. -/
def addName (declarations : Declarations) (name : String) : Nat × Declarations :=
  let number := declarations.names.length
  let others := declarations.names.filter fun known => known.1 != name
  (number, { declarations with names := (name, number) :: others })

end Declarations

/-- What readers have in common: the declarations and the tokens that are left. -/
structure Progress where
  declarations : Declarations
  tokens : List Token
  deriving DecidableEq, Repr

/-- What stands in front of the content of a node. -/
structure Properties where
  number : Option Nat
  tag : Option String
  deriving DecidableEq, Repr

namespace Properties

/-- A node has a name or a tag. -/
def isGiven (properties : Properties) : Bool :=
  properties.number.isSome || properties.tag.isSome

/-- The node with its number, if it has one. -/
def attach (properties : Properties) (node : Node) : Node :=
  match properties.number with
  | some number => .anchored number node
  | none => node

end Properties

namespace Document

/-- Reads the name of a node, if one comes next. -/
def readNumber (progress : Progress) : Option Nat × Progress :=
  match progress.tokens with
  | .anchor name :: rest =>
      let (number, declarations) := progress.declarations.addName name
      (some number, ⟨declarations, rest⟩)
  | _ => (none, progress)

/-- Reads the tag of a node, if one comes next. -/
def readTag (progress : Progress) : Option (Option String × Progress) :=
  match progress.tokens with
  | .tag handle suffix :: rest =>
      (progress.declarations.tag? handle suffix).map fun tag =>
        (some tag, { progress with tokens := rest })
  | _ => some (none, progress)

/-- Reads the name and the tag of a node, in either order. -/
def readProperties (progress : Progress) : Option (Properties × Progress) := do
  let (number, progress) := readNumber progress
  let (tag, progress) ← readTag progress
  match number with
  | some number => some (⟨some number, tag⟩, progress)
  | none =>
      if tag.isNone then
        some (⟨none, none⟩, progress)
      else
        let (number, progress) := readNumber progress
        some (⟨number, tag⟩, progress)

/-- What may stand at the place of a node. -/
inductive Place where
  | flow
  | block
  | entry
  deriving DecidableEq, Repr

/-- A scalar with a text. -/
def scalar (tag : Option String) (isPlain : Bool) (text : String) : Node :=
  .scalar
    { tag := tag
      isPlain := isPlain
      text := text }

/-- One of the given tokens comes next. -/
def isNext (expected : List Token) (progress : Progress) : Bool :=
  match progress.tokens with
  | [] => false
  | token :: _ => expected.contains token

/-- The tokens after the next one. -/
def Progress.skip (progress : Progress) : Progress :=
  { progress with tokens := progress.tokens.drop 1 }

mutual

/-- Reads a node. -/
def readNode (place : Place) : Nat → Progress → Option (Node × Progress)
  | 0, _ => none
  | bound + 1, progress =>
      match progress.tokens with
      | .alias name :: rest =>
          (progress.declarations.names.lookup name).map fun number =>
            (.alias number, { progress with tokens := rest })
      | _ => do
          let (properties, progress) ← readProperties progress
          let (node, progress) ← readContent place bound properties progress
          some (properties.attach node, progress)

/-- Reads the content of a node, which may be left out after its properties. -/
def readContent (place : Place) :
    Nat → Properties → Progress → Option (Node × Progress)
  | 0, _, _ => none
  | bound + 1, properties, progress =>
      let rest := Progress.skip progress
      match progress.tokens, place with
      | .scalar isPlain text :: _, _ =>
          some (scalar properties.tag isPlain text, rest)
      | .sequenceStart :: _, _ => do
          let (items, progress) ← readFlowItems true bound rest
          some (.sequence items, progress)
      | .mappingStart :: _, _ => do
          let (entries, progress) ← readFlowEntries true bound rest
          some (.mapping entries, progress)
      | .blockSequence :: _, .block | .blockSequence :: _, .entry => do
          let (items, progress) ← readBlockItems bound rest
          some (.sequence items, progress)
      | .blockMapping :: _, .block | .blockMapping :: _, .entry => do
          let (entries, progress) ← readBlockEntries bound rest
          some (.mapping entries, progress)
      | .entry :: _, .entry => do
          let (items, progress) ← readEntryItems bound progress
          some (.sequence items, progress)
      | _, _ =>
          if properties.isGiven then
            some (.scalar { Scalar.empty with tag := properties.tag }, progress)
          else
            none

/-- Reads a node, or leaves it out before one of the given tokens. -/
def readOptional (place : Place) (ends : List Token) :
    Nat → Progress → Option (Node × Progress)
  | 0, _ => none
  | bound + 1, progress =>
      if isNext ends progress then
        some (.empty, progress)
      else
        readNode place bound progress

/-- Reads the value of a key, which may be left out. -/
def readValue (place : Place) (ends : List Token) :
    Nat → Progress → Option (Node × Progress)
  | 0, _ => none
  | bound + 1, progress =>
      match progress.tokens with
      | .value :: rest => readOptional place ends bound { progress with tokens := rest }
      | _ => some (.empty, progress)

/-- Reads the items of an indented sequence. -/
def readBlockItems : Nat → Progress → Option (List Node × Progress)
  | 0, _ => none
  | bound + 1, progress =>
      match progress.tokens with
      | .entry :: rest => do
          let (item, progress) ←
            readOptional .block [.entry, .blockEnd] bound { progress with tokens := rest }
          let (items, progress) ← readBlockItems bound progress
          some (item :: items, progress)
      | .blockEnd :: rest => some ([], { progress with tokens := rest })
      | _ => none

/-- Reads the items of a sequence that is indented like the mapping around it. -/
def readEntryItems : Nat → Progress → Option (List Node × Progress)
  | 0, _ => none
  | bound + 1, progress =>
      match progress.tokens with
      | .entry :: rest => do
          let (item, progress) ←
            readOptional .block [.entry, .key, .value, .blockEnd] bound
              { progress with tokens := rest }
          let (items, progress) ← readEntryItems bound progress
          some (item :: items, progress)
      | _ => some ([], progress)

/-- Reads the entries of an indented mapping. -/
def readBlockEntries : Nat → Progress → Option (List (Node × Node) × Progress)
  | 0, _ => none
  | bound + 1, progress =>
      match progress.tokens with
      | .key :: rest => do
          let (key, progress) ←
            readOptional .entry [.key, .value, .blockEnd] bound { progress with tokens := rest }
          let (value, progress) ←
            readValue .entry [.key, .value, .blockEnd] bound progress
          let (entries, progress) ← readBlockEntries bound progress
          some ((key, value) :: entries, progress)
      | .blockEnd :: rest => some ([], { progress with tokens := rest })
      | _ => none

/-- Reads the items of a sequence in brackets; a key among them makes a mapping of one entry. -/
def readFlowItems (isFirst : Bool) : Nat → Progress → Option (List Node × Progress)
  | 0, _ => none
  | bound + 1, progress => do
      if isNext [.sequenceEnd] progress then
        some ([], Progress.skip progress)
      else if !isFirst && !isNext [.comma] progress then
        none
      else
        let progress := if isFirst then progress else Progress.skip progress
        match progress.tokens with
        | .sequenceEnd :: rest => some ([], { progress with tokens := rest })
        | .key :: rest =>
            let (key, progress) ←
              readOptional .flow [.value, .comma, .sequenceEnd] bound
                { progress with tokens := rest }
            let (value, progress) ←
              readValue .flow [.comma, .sequenceEnd] bound progress
            let (items, progress) ← readFlowItems false bound progress
            some (.mapping [(key, value)] :: items, progress)
        | _ =>
            let (item, progress) ← readNode .flow bound progress
            let (items, progress) ← readFlowItems false bound progress
            some (item :: items, progress)

/-- Reads the entries of a mapping in braces; a key may stand there without a mark and a value. -/
def readFlowEntries (isFirst : Bool) :
    Nat → Progress → Option (List (Node × Node) × Progress)
  | 0, _ => none
  | bound + 1, progress => do
      if isNext [.mappingEnd] progress then
        some ([], Progress.skip progress)
      else if !isFirst && !isNext [.comma] progress then
        none
      else
        let progress := if isFirst then progress else Progress.skip progress
        match progress.tokens with
        | .mappingEnd :: rest => some ([], { progress with tokens := rest })
        | .key :: rest =>
            let (key, progress) ←
              readOptional .flow [.value, .comma, .mappingEnd] bound
                { progress with tokens := rest }
            let (value, progress) ←
              readValue .flow [.comma, .mappingEnd] bound progress
            let (entries, progress) ← readFlowEntries false bound progress
            some ((key, value) :: entries, progress)
        | _ =>
            let (key, progress) ← readNode .flow bound progress
            let (entries, progress) ← readFlowEntries false bound progress
            some ((key, .empty) :: entries, progress)

end

/-! ## Whole texts -/

/-- A version of the notation that is understood. -/
def knowsVersion (major minor : Nat) : Bool :=
  major == 1 && (minor == 1 || minor == 2)

/-- Reads directives: at most one version, and every handle once. -/
def readDirectives (hasVersion : Bool) (handles : List (String × String)) :
    List Token → Option (List (String × String) × List Token)
  | .version major minor :: rest =>
      if hasVersion || !knowsVersion major minor then
        none
      else
        readDirectives true handles rest
  | .handle name address :: rest =>
      if (handles.lookup name).isSome then
        none
      else
        readDirectives hasVersion (handles ++ [(name, address)]) rest
  | tokens => some (handles, tokens)

/-- A document ends here, and so does a node that was left out. -/
def isBoundary : List Token → Bool
  | [] => true
  | .version _ _ :: _ => true
  | .handle _ _ :: _ => true
  | .documentStart :: _ => true
  | .documentEnd :: _ => true
  | _ => false

/-- Nothing but marks of a document's end is left. -/
def isEnd (tokens : List Token) : Bool :=
  tokens.all fun token => token == .documentEnd

/-- Reads the only node of a document that starts with a mark. -/
def readMarked (bound : Nat) (tokens : List Token) : Option (Node × Progress) := do
  let (handles, rest) ← readDirectives false [] tokens
  match rest with
  | .documentStart :: rest =>
      if isBoundary rest then
        some (.empty, ⟨⟨handles, []⟩, rest⟩)
      else
        readNode .block bound ⟨⟨handles, []⟩, rest⟩
  | _ => none

/-- The tokens start with directives or with the mark of a document. -/
def isMarked : List Token → Bool
  | .version _ _ :: _ => true
  | .handle _ _ :: _ => true
  | .documentStart :: _ => true
  | _ => false

/-- The node of the only document that tokens form; without a document it is left out. -/
def ofTokens? (tokens : List Token) : Option Node :=
  if tokens.isEmpty then
    some .empty
  else do
    let bound := 4 * tokens.length + 4
    let (node, progress) ←
      if isMarked tokens then
        readMarked bound tokens
      else
        readNode .block bound ⟨⟨[], []⟩, tokens⟩
    if isEnd progress.tokens then some node else none

/-- The node of the only document in a text. -/
def read? (text : String) : Option Node := do
  let tokens ← Token.read? text
  ofTokens? tokens

end Document

end RecordStore.Yaml
