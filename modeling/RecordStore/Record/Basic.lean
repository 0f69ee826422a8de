import RecordStore.Criteria.Filter
import RecordStore.Record.Fields

/-!
# Records

A record holds scalar values under names.  A record that was stored has an
identity besides, the id of its row; as JSON the identity is the first
member, under the name `_id`.
-/

namespace RecordStore

/-- Fields, with the identity of the stored row if there is one. -/
structure Record where
  id : Option Int64
  fields : Fields
  deriving DecidableEq

/-- Why a record cannot be written as given. -/
inductive RecordFault where
  | noIdentity
  | nothingToUpdate (id : Int64)
  | unknownField (name : String) (known : List String)
  deriving DecidableEq, Repr

namespace Record

/-- A record without identity and fields. -/
def empty : Record :=
  ⟨none, .empty⟩

/-- Sets a field. -/
def set (record : Record) (name : String) (value : Value) : Record :=
  { record with fields := record.fields.set name value }

/-- Removes a field. -/
def erase (record : Record) (name : String) : Record :=
  { record with fields := record.fields.erase name }

/-- The record as a JSON object: the identity if there is one, then the fields. -/
def toJson (record : Record) : Json :=
  let fields := record.fields.entries.map fun entry => (entry.1, entry.2.toJson)
  match record.id with
  | none => .object fields
  | some id => .object ((Field.identityName, .integer id.toInt) :: fields)

/-- The JSON text of a record. -/
def toText (record : Record) : String :=
  record.toJson.toText

/-- The filter that a record stands for: its identity alone. -/
def toFilter (record : Record) : Except RecordFault Filter :=
  match record.id with
  | some id => .ok (.identity id)
  | none => .error .noIdentity

end Record

namespace RecordFault

/-- What the fault says to a reader. -/
def message : RecordFault → String
  | noIdentity => "record has no _id and cannot address a stored row"
  | nothingToUpdate id => s!"record _id {id} has no fields to update"
  | unknownField name known =>
      let names := ", ".intercalate known
      s!"unknown field '{name}', expected one of: {names}"

end RecordFault

end RecordStore
