import RecordStore.Record.Basic
import RecordStore.Text.Blank

/-!
# Schemas

A schema is the list of fields that the records of a table may have, in the
order of the table's columns.  The identity is left out of it, since it is
no column.  The names are identifiers, they differ from each other, and none
of them is a name that SQL takes for the row id.
-/

namespace RecordStore

/-- The fields of a table's records, in column order. -/
structure Schema where
  fields : List String
  areIdentifiers : ∀ name ∈ fields, Identifier.check name = .ok ()
  deriving DecidableEq, Repr

/-- Why a list of names is no schema, or a table has none. -/
inductive SchemaFault where
  | identifier (fault : IdentifierFault)
  | shadowsIdentity (name : String)
  | duplicate (name : String)
  | noFields
  | noTable (table : String)
  deriving DecidableEq, Repr

namespace Schema

/-- Accepts a further field besides those that are known. -/
def checkField (known : List String) (name : String) : Except SchemaFault Unit := do
  (Identifier.check name).mapError .identifier
  if Field.isRowIdAlias name then
    .error (.shadowsIdentity name)
  else if known.contains name then
    .error (.duplicate name)
  else
    .ok ()

/-- The known fields with further ones after them; the identity is skipped. -/
def collect (known : List String) : List String → Except SchemaFault (List String)
  | [] => .ok known
  | name :: rest =>
      if name = Field.identityName then
        collect known rest
      else do
        checkField known name
        collect (known ++ [name]) rest

theorem isIdentifier_of_checkField
    {known : List String}
    {name : String}
    (accepted : checkField known name = .ok ()) :
    Identifier.check name = .ok () := by
  cases checked : Identifier.check name with
  | ok _ => rfl
  | error fault =>
      rw [checkField, checked] at accepted
      contradiction

/-- What is collected are identifiers, if the known fields are. -/
theorem areIdentifiers_of_collect
    {known names fields : List String}
    (areIdentifiers : ∀ name ∈ known, Identifier.check name = .ok ())
    (collected : collect known names = .ok fields) :
    ∀ name ∈ fields, Identifier.check name = .ok () := by
  induction names generalizing known with
  | nil =>
      cases collected
      exact areIdentifiers
  | cons first rest induction =>
      rw [collect] at collected
      split at collected
      · exact induction areIdentifiers collected
      · cases checked : checkField known first with
        | error fault =>
            rw [checked] at collected
            contradiction
        | ok _ =>
            rw [checked] at collected
            refine induction ?_ collected
            intro name member
            rcases List.mem_append.mp member with isKnown | isFirst
            · exact areIdentifiers name isKnown
            · rw [List.mem_singleton.mp isFirst]
              exact isIdentifier_of_checkField checked

/-- The schema with the given fields. -/
def ofNames (names : List String) : Except SchemaFault Schema :=
  match collected : collect [] names with
  | .error fault => .error fault
  | .ok fields =>
      if fields.isEmpty then
        .error .noFields
      else
        have areIdentifiers :=
          areIdentifiers_of_collect (fun _ member => absurd member List.not_mem_nil) collected
        .ok ⟨fields, areIdentifiers⟩

/-- The schema that a text lists: names between commas, without blanks around and empty ones. -/
def read (text : String) : Except SchemaFault Schema :=
  let pieces := (Text.splitAt ',' text.toList).map fun piece =>
    Text.trim (String.ofList piece)
  ofNames (pieces.filter fun piece => !piece.isEmpty)

/-- The field belongs to the schema. -/
def contains (schema : Schema) (name : String) : Bool :=
  schema.fields.contains name

/-- Accepts a record all of whose fields belong to the schema, and names the first that does not. -/
def check (schema : Schema) (record : Record) : Except RecordFault Unit :=
  match record.fields.names.find? fun name => !schema.contains name with
  | some name => .error (.unknownField name schema.fields)
  | none => .ok ()

/-- No two fields differ in letter case alone. -/
def TellsFieldsApart (schema : Schema) : Prop :=
  ∀ one ∈ schema.fields, ∀ other ∈ schema.fields,
    Text.sameName one other = true → one = other

instance (schema : Schema) : Decidable schema.TellsFieldsApart :=
  inferInstanceAs
    (Decidable
      (∀ one ∈ schema.fields, ∀ other ∈ schema.fields,
        Text.sameName one other = true → one = other))

end Schema

namespace SchemaFault

/-- What the fault says to a reader. -/
def message : SchemaFault → String
  | identifier fault => s!"invalid criteria: {fault.message}"
  | shadowsIdentity name => s!"field '{name}' would shadow the record identity"
  | duplicate name => s!"duplicate field '{name}'"
  | noFields => "item fieldnames are not defined"
  | noTable table => s!"table '{table}' does not exist"

end SchemaFault

end RecordStore
