/-!
# Tokens

The tokens of a YAML text.  Indentation has become tokens of its own, which
open and close block collections, and so have the places where keys start.
-/

namespace RecordStore.Yaml

/-- The tokens between the start and the end of a text. -/
inductive Token where
  | version (major minor : Nat)
  | handle (name address : String)
  | documentStart
  | documentEnd
  | blockSequence
  | blockMapping
  | blockEnd
  | sequenceStart
  | sequenceEnd
  | mappingStart
  | mappingEnd
  | entry
  | comma
  | key
  | value
  | anchor (name : String)
  | alias (name : String)
  | tag (handle suffix : String)
  | scalar (isPlain : Bool) (text : String)
  deriving DecidableEq, Repr

end RecordStore.Yaml
