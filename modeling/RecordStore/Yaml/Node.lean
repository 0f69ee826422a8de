/-!
# Nodes

A YAML document is a tree of scalars, sequences and mappings.  A node may be
named, and other places of the tree may refer to it by that name; here the
names have become numbers.
-/

namespace RecordStore.Yaml

/-- A scalar as it is written. -/
structure Scalar where
  tag : Option String
  isPlain : Bool
  text : String
  deriving DecidableEq, Repr

/-- A node of a document. -/
inductive Node where
  | scalar (content : Scalar)
  | sequence (items : List Node)
  | mapping (entries : List (Node × Node))
  | anchored (number : Nat) (content : Node)
  | alias (number : Nat)
  deriving Repr

namespace Scalar

/-- The scalar that stands where a node is left out. -/
def empty : Scalar :=
  { tag := none
    isPlain := true
    text := "" }

end Scalar

namespace Node

/-- A node that is left out. -/
def empty : Node :=
  .scalar .empty

mutual

/-- The last node below a node that has a number. -/
def target? (number : Nat) : Node → Option Node
  | .anchored known content =>
      target? number content <|> if known = number then some content else none
  | .sequence items => targetInItems? number items
  | .mapping entries => targetInEntries? number entries
  | _ => none

/-- The last node in a list that has a number. -/
def targetInItems? (number : Nat) : List Node → Option Node
  | [] => none
  | item :: rest => targetInItems? number rest <|> target? number item

/-- The last key or value in entries that has a number. -/
def targetInEntries? (number : Nat) : List (Node × Node) → Option Node
  | [] => none
  | (key, value) :: rest =>
      targetInEntries? number rest <|> target? number value <|> target? number key

end

/-- What stands at a place of a document: what a name refers to, without a name of its own. -/
def content (document : Node) : Node → Node
  | .anchored _ content => content
  | .alias number => (document.target? number).getD (.alias number)
  | other => other

/-- The scalar at a place of a document. -/
def scalar? (document node : Node) : Option Scalar :=
  match content document node with
  | .scalar content => some content
  | _ => none

/-- The nodes of the sequence at a place of a document; a plain scalar without text has none. -/
def items? (document node : Node) : Option (List Node) :=
  match content document node with
  | .sequence items => some items
  | .scalar ⟨_, true, ""⟩ => some []
  | _ => none

/-- The entries of the mapping at a place of a document; a plain scalar without text has none. -/
def entries? (document node : Node) : Option (List (Node × Node)) :=
  match content document node with
  | .mapping entries => some entries
  | .scalar ⟨_, true, ""⟩ => some []
  | _ => none

end Node

end RecordStore.Yaml
