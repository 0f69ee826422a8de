import RecordStore.Criteria.Basic
import RecordStore.Database.Fault
import RecordStore.Location
import RecordStore.Schema
import RecordStore.Workspace.Fault

/-!
# Errors

Whatever can go wrong, by its cause.  `message` says it in one line, and
`causes` lists what lies behind it, from the nearest cause on.
-/

namespace RecordStore

/-- Why settings are refused. -/
inductive ConfigFault where
  | badAutoCommit (text : String)
  | malformed
  | noLocation
  deriving DecidableEq, Repr

/-- What went wrong. -/
inductive Error where
  | database (fault : DatabaseFault)
  | criteria (fault : CriteriaFault)
  | location (fault : LocationFault)
  | schema (fault : SchemaFault)
  | record (fault : RecordFault)
  | recordNotFound (id : Int64)
  | missingCriteria
  | file (fault : FileFault)
  | json (fault : Json.Fault)
  | config (fault : ConfigFault)
  deriving BEq, Repr

namespace ConfigFault

/-- What the fault says to a reader, if there is more to say than that there is one. -/
def detail? : ConfigFault → Option String
  | badAutoCommit text =>
      some s!"invalid autocommit '{text}', expected true, false or a put count"
  | malformed => none
  | noLocation =>
      some "no storage URI; pass --uri or set 'uri' in dblite.yaml"

end ConfigFault

namespace Error

/-- What went wrong, in one line. -/
def message : Error → String
  | database fault => s!"database error: {fault.message}"
  | criteria fault => s!"{fault.kind.title}: {fault.message}"
  | location fault => s!"invalid URI: {fault.message}"
  | schema fault => s!"schema error: {fault.message}"
  | record fault => s!"invalid record: {fault.message}"
  | recordNotFound id => s!"no record with _id {id}"
  | missingCriteria =>
      "criteria is not defined; use delete_all() to remove every record"
  | file fault => s!"I/O error: {fault.message}"
  | json _ => "JSON error"
  | config fault =>
      match fault.detail? with
      | some detail => s!"configuration error: {detail}"
      | none => "configuration error"

/-- What lies behind an error, from the nearest cause on. -/
def causes : Error → List String
  | database fault => fault.message :: fault.causes
  | file fault => [fault.message]
  | _ => []

/-- What an error makes of an open transaction; an update that has met no row has run. -/
def aftermath : Error → DatabaseFault.Aftermath
  | database fault => fault.aftermath
  | recordNotFound _ => .writing
  | _ => .nothing

end Error

end RecordStore
