import RecordStore.AutoCommit
import RecordStore.Workspace.Basic
import RecordStore.Yaml.Document
import RecordStore.Yaml.Scalar.Meaning

/-!
# Settings

A file of settings is a YAML mapping that gives where records are stored,
when puts commit and which fields records have.  Each of the three may be
left out, and nothing else may stand there.
-/

namespace RecordStore

/-- Settings for storing records. -/
structure Settings where
  uri : Option String
  policy : AutoCommit
  fields : List String
  deriving DecidableEq, Repr

namespace Settings

/-- The settings without a file. -/
def unset : Settings :=
  { uri := none
    policy := .manual
    fields := [] }

/-- The name of the file that is looked for. -/
def fileName : String := "dblite.yaml"

/-- The key of the location. -/
def uriKey : String := "uri"

/-- The key of the policy. -/
def policyKey : String := "autocommit"

/-- The key of the fields. -/
def fieldsKey : String := "fields"

/-- The keys that settings may have. -/
def keys : List String := [uriKey, policyKey, fieldsKey]

open Yaml

/-- The policy that a scalar stands for: a flag, a number of puts or one of the policies' texts. -/
def policyOf? (scalar : Scalar) : Option AutoCommit :=
  match scalar.meaning? with
  | some (.boolean flag) => some (.ofFlag flag)
  | some (.integer number) =>
      if 0 ≤ number && number ≤ AutoCommit.maximalCount then
        some (.ofCount number.toNat)
      else
        none
  | some (.text content) => AutoCommit.read? content
  | _ => none

/-- The text of a scalar in a document, whatever it means. -/
def textOf? (document node : Node) : Option String :=
  (document.scalar? node).map Scalar.text

/-- The entries of a document, with the texts of their keys; each key is known and given once. -/
def entriesOf? (document : Node) : Option (List (String × Node)) := do
  let entries ← document.entries? document
  let entries ← entries.mapM fun entry =>
    (textOf? document entry.1).map fun key => (key, entry.2)
  let given := entries.map Prod.fst
  if given.all keys.contains && decide given.Nodup then some entries else none

/-- The settings that a document gives. -/
def ofDocument? (document : Node) : Option Settings := do
  let entries ← entriesOf? document
  let uri ←
    match entries.lookup uriKey with
    | none => some unset.uri
    | some node => (document.scalar? node).bind Scalar.optionalText?
  let policy ←
    match entries.lookup policyKey with
    | none => some unset.policy
    | some node => (document.scalar? node).bind policyOf?
  let fields ←
    match entries.lookup fieldsKey with
    | none => some unset.fields
    | some node => (document.items? node).bind fun items => items.mapM (textOf? document)
  some ⟨uri, policy, fields⟩

/-- The settings that a text gives. -/
def read (text : String) : Except Error Settings :=
  match (Document.read? text).bind ofDocument? with
  | some settings => .ok settings
  | none => .error (.config .malformed)

/-- The settings in the file at a path. -/
def load (workspace : Workspace) (path : String) : Except Error Settings := do
  let text ← (workspace.readText path).mapError .file
  read text

/--
The settings that hold: those in a file that is given, else those in the
file of the usual name in a directory, if it is there.
-/
def discover
    (workspace : Workspace)
    (given : Option String)
    (directory : String) :
    Except Error Settings :=
  match given with
  | some path => load workspace path
  | none =>
      let path := Path.join directory fileName
      if workspace.isFile path then load workspace path else .ok unset

/-- The schema of the fields, if any are given. -/
def schema (settings : Settings) : Except Error (Option Schema) :=
  if settings.fields.isEmpty then
    .ok none
  else
    match Schema.ofNames settings.fields with
    | .ok schema => .ok (some schema)
    | .error fault => .error (.schema fault)

end Settings

end RecordStore
