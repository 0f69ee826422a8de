import RecordStore.Proofs.Storage.Wide

/-!
# Putting a record changes one row

A storage sees its table as rows under their ids.  A record without an
identity comes under an id that was free; a record with an identity overwrites
the columns that it names in the row that is stored under it.  All other rows,
all other columns and all other tables stay as they are, and the row is read
back as it was put.

Main statement: `Session.put_changes_one_row`.
-/

namespace RecordStore

open Sql (Condition)

/-- The cells of a row that is overwritten, by the columns of the table. -/
theorem Table.zip_overwrite
    {table : Table}
    (areFields : AreFields table.columns)
    {record : Record}
    (fits : Database.Fits table.columns record.fields.entries)
    {row : Row}
    (full : row.cells.length = table.columns.length) :
    table.columns.zip
        (row.overwrite
          (table.placed
            (record.fields.entries.map fun entry => (entry.1, Cell.ofValue entry.2)))).cells =
      record.changedRow (table.columns.zip row.cells) := by
  have apart :
      ((record.fields.entries.map fun entry => (entry.1, Cell.ofValue entry.2)).map
        Prod.fst).Nodup := by
    rw [List.map_map]
    exact fits.apart
  have overwritten := Row.overwrite_fields areFields fits.known_map apart full
  simp only [Json.member?_map] at overwritten
  exact overwritten

namespace Storage.Ready

variable {storage : Storage} {table : Table}

/-! ## Reading one row back -/

/-- An id finds its row, unless the rows have too many columns for a result. -/
theorem getById_eq
    (ready : storage.Ready table)
    (narrow : storage.schema.fields.length < Database.maximalColumns)
    (id : Int64) :
    storage.getById id =
      .ok ((storage.view.row? storage.table id).map fun row => .ofRow id row) := by
  have areFields : AreFields table.columns := by
    rw [ready.suits.columns]
    exact ready.areFields
  have got : storage.get (.identity id) = .ok ((table.row? id).toList.map table.recordOf) := by
    apply (ready.get_eq_ok_iff _ _).mpr
    refine ⟨_, restriction_identity id, ready.admits_ofId id, narrow, ?_⟩
    rw [Table.matching_ofId (Table.source?_rowIdName areFields) ready.suits.ascending]
  rw [getById, got, Outcome.ok_bind, ready.row?_eq]
  cases found : table.row? id with
  | none => rfl
  | some row =>
      have isSame := (Table.mem_of_row? found).2
      subst isSame
      rfl

theorem getById_of_wide
    (ready : storage.Ready table)
    (wide : Database.maximalColumns ≤ storage.schema.fields.length)
    (id : Int64) :
    storage.getById id = .error (.database .tooManyResultColumns) := by
  rw [getById, ready.get_of_wide (restriction_identity id) (ready.admits_ofId id) wide]
  rfl

/-! ## Putting -/

/-- A new row has a cell for every column, null where the record has no field. -/
theorem row?_inserted
    (ready : storage.Ready table)
    (record : Record)
    {id : Int64}
    (isFree : table.row? id = none)
    (other : Int64) :
    ((inserted table record id).row? other).map (fun row => table.columns.zip row.cells) =
      if other = id then some (record.newRow storage.schema.fields)
      else storage.view.row? storage.table other := by
  have columns := ready.suits.columns
  rw [inserted, Table.row?_insertRow isFree, ready.row?_eq]
  by_cases same : other = id
  · rw [if_pos same, if_pos same, Option.map_some, ← columns, Record.newRow]
    exact congrArg some List.map_prod_left_eq_zip.symm
  · rw [if_neg same, if_neg same]

theorem zip_overwrite
    (ready : storage.Ready table)
    {record : Record}
    (checked : storage.schema.check record = .ok ())
    {row : Row}
    (member : row ∈ table.rows) :
    table.columns.zip
        (row.overwrite
          (table.placed
            (record.fields.entries.map fun entry => (entry.1, Cell.ofValue entry.2)))).cells =
      record.changedRow (table.columns.zip row.cells) := by
  have columns := ready.suits.columns
  exact
    Table.zip_overwrite (columns ▸ ready.areFields) (columns ▸ fits_of_check checked)
      (columns ▸ ready.suits.full row member)

/-- An overwritten row has new cells in the columns that the record names. -/
theorem row?_updated
    (ready : storage.Ready table)
    {record : Record}
    (checked : storage.schema.check record = .ok ())
    (id other : Int64) :
    ((updated table record id).row? other).map (fun row => table.columns.zip row.cells) =
      if other = id then (storage.view.row? storage.table other).map record.changedRow
      else storage.view.row? storage.table other := by
  rw [updated, Table.row?_overwrite, ready.row?_eq]
  by_cases same : other = id
  · rw [if_pos same, if_pos same, Option.map_map, Option.map_map]
    cases found : table.row? other with
    | none => rfl
    | some row => exact congrArg some (ready.zip_overwrite checked (Table.mem_of_row? found).1)
  · rw [if_neg same, if_neg same]

end Storage.Ready

namespace Session

variable {session : Session}

/-- A put that succeeds gives the id, and leaves the database that it has made. -/
theorem Ready.put_ok
    {table : Table}
    (ready : session.Ready table)
    {record : Record}
    (checked : session.storage.schema.check record = .ok ())
    {id : Int64}
    {database : Database}
    (stores : session.storage.storeRecord record = .ok (id, database)) :
    (session.perform (.put record)).1 = .ok (.id id) ∧
      (session.perform (.put record)).2.view = database := by
  obtain ⟨after, isPut, isSeen⟩ := Storage.put_of_stores ready.storage.committable checked stores
  rw [ready.perform_eq]
  constructor
  · simp only [Storage.perform, Storage.conclude, isPut]
    rfl
  · rw [view]
    simp only [Storage.perform, Storage.conclude, isPut]
    exact isSeen

/-- A put that succeeds writes the table that it has made into the place of the old one. -/
theorem Ready.rowBecomes
    {table changed : Table}
    (ready : session.Ready table)
    (record : Record)
    {id : Int64}
    {row : NamedCells}
    (checked : session.storage.schema.check record = .ok ())
    (stores :
      session.storage.storeRecord record = .ok (id, session.view.replaceTable changed))
    (keepsName : changed.name = table.name)
    (rows :
      ∀ other,
        (changed.row? other).map (fun row => changed.columns.zip row.cells) =
          if other = id then some row else session.row? other) :
    (session.perform (.put record)).1 = .ok (.id id) ∧
      session.RowBecomes (session.perform (.put record)).2 id row := by
  rcases ready.put_ok checked stores with ⟨succeeds, seen⟩
  have found : session.view.table? session.storage.table = some table := ready.storage.found
  refine ⟨succeeds, ?_, ?_, ?_⟩
  · rw [row?, seen, table_perform, Database.row?_replaceTable found keepsName, rows, if_pos rfl]
  · intro other apart
    rw [row?, seen, table_perform, Database.row?_replaceTable found keepsName, rows, if_neg apart]
  · intro name differ
    rw [table?, seen, Database.table?_replaceTable found keepsName, differ]
    rfl

theorem Ready.put_error
    {table : Table}
    (ready : session.Ready table)
    {record : Record}
    (checked : session.storage.schema.check record = .ok ())
    {error : Error}
    (refuses : session.storage.storeRecord record = .error error) :
    (session.perform (.put record)).1 = .error error ∧
      (error.aftermath ≠ .ended → (session.perform (.put record)).2.view = session.view) := by
  have isPut := Storage.put_of_refuses checked refuses
  rw [ready.perform_eq]
  constructor
  · simp only [Storage.perform, Storage.conclude, isPut]
    rfl
  · intro goesOn
    rw [view]
    simp only [Storage.perform, Storage.conclude, isPut]
    exact (Storage.view_abandon _ goesOn).trans session.storage.view_begin

theorem Ready.row?_eq_none_iff
    {table : Table}
    (ready : session.Ready table)
    (id : Int64) :
    session.row? id = none ↔ table.row? id = none := by
  rw [row?, view, ready.storage.row?_eq, Option.map_eq_none_iff]

/-- The columns of every row are the fields of the schema. -/
theorem Ready.columns_of_row?
    {table : Table}
    (ready : session.Ready table)
    {id : Int64}
    {row : NamedCells}
    (isStored : session.row? id = some row) :
    row.map Prod.fst = session.storage.schema.fields := by
  rw [row?, view, ready.storage.row?_eq] at isStored
  rcases Option.map_eq_some_iff.mp isStored with ⟨stored, found, rfl⟩
  have full := ready.storage.suits.full stored (Table.mem_of_row? found).1
  rw [ready.storage.suits.columns]
  exact List.map_fst_zip full.ge

theorem Ready.exists_freshId
    {table : Table}
    (ready : session.Ready table)
    (room : session.HasRoom) :
    ∃ id, Database.freshId table = .ok id := by
  have ascending := ready.storage.suits.ascending
  apply Database.exists_freshId ascending
  intro row member
  apply room row.id (table.columns.zip row.cells)
  rw [row?, view, ready.storage.row?_eq, Table.row?_of_mem ascending member]
  rfl

/-! ## The ways to put a record -/

section Ways

variable {table : Table} {record : Record}

/-- A put of a record without an identity brings the id that is free. -/
theorem Ready.put_fresh
    (ready : session.Ready table)
    (checked : session.storage.schema.check record = .ok ())
    (unnamed : record.id = none)
    {id : Int64}
    (isFresh : Database.freshId table = .ok id) :
    (session.perform (.put record)).1 = .ok (.id id) ∧
      session.RowBecomes (session.perform (.put record)).2 id
        (record.newRow session.storage.schema.fields) := by
  have isFree := Database.row?_of_freshId isFresh
  have stores :
      session.storage.storeRecord record =
        .ok (id, session.view.replaceTable (Storage.Ready.inserted table record id)) := by
    rw [Storage.storeRecord, unnamed, ready.storage.insertRecord_eq checked, isFresh]
    rfl
  exact ready.rowBecomes record checked stores rfl (ready.storage.row?_inserted record isFree)

theorem Ready.put_new
    (ready : session.Ready table)
    (checked : session.storage.schema.check record = .ok ())
    (unnamed : record.id = none)
    (room : session.HasRoom) :
    ∃ id, session.row? id = none ∧
      (session.perform (.put record)).1 = .ok (.id id) ∧
        session.RowBecomes (session.perform (.put record)).2 id
          (record.newRow session.storage.schema.fields) := by
  rcases ready.exists_freshId room with ⟨id, isFresh⟩
  have isFree := Database.row?_of_freshId isFresh
  exact ⟨id, (ready.row?_eq_none_iff id).mpr isFree, ready.put_fresh checked unnamed isFresh⟩

/-- A put that succeeds with a record without an identity has added its row. -/
theorem Ready.rowBecomes_of_put
    (ready : session.Ready table)
    (checked : session.storage.schema.check record = .ok ())
    (unnamed : record.id = none)
    {id : Int64}
    (isPut : (session.perform (.put record)).1 = .ok (.id id)) :
    session.RowBecomes (session.perform (.put record)).2 id
      (record.newRow session.storage.schema.fields) := by
  cases isFresh : Database.freshId table with
  | error fault =>
      have refuses : session.storage.storeRecord record = .error (.database fault) := by
        rw [Storage.storeRecord, unnamed, ready.storage.insertRecord_eq checked, isFresh]
        rfl
      rw [(ready.put_error checked refuses).1] at isPut
      contradiction
  | ok fresh =>
      rcases ready.put_fresh checked unnamed isFresh with ⟨isPutToo, becomes⟩
      rw [isPutToo] at isPut
      cases isPut
      exact becomes

theorem Ready.storeRecord_eq
    (ready : session.Ready table)
    (checked : session.storage.schema.check record = .ok ())
    {id : Int64}
    (named : record.id = some id) :
    session.storage.storeRecord record =
      if record.fields.entries = [] then .error (.record (.nothingToUpdate id))
      else if (table.row? id).isSome then
        .ok (id, session.view.replaceTable (Storage.Ready.updated table record id))
      else .error (.recordNotFound id) := by
  rw [Storage.storeRecord, named]
  exact ready.storage.updateRecord_eq checked id

theorem Ready.put_stored
    (ready : session.Ready table)
    (checked : session.storage.schema.check record = .ok ())
    {id : Int64}
    (named : record.id = some id)
    (hasFields : record.fields.entries ≠ [])
    {row : NamedCells}
    (isStored : session.row? id = some row) :
    (session.perform (.put record)).1 = .ok (.id id) ∧
      session.RowBecomes (session.perform (.put record)).2 id (record.changedRow row) := by
  have isThere : (table.row? id).isSome = true := by
    rw [Option.isSome_iff_ne_none, Ne, ← ready.row?_eq_none_iff, isStored]
    exact Option.some_ne_none row
  have stores := ready.storeRecord_eq checked named
  rw [if_neg hasFields, if_pos isThere] at stores
  refine ready.rowBecomes record checked stores rfl fun other => ?_
  refine (ready.storage.row?_updated checked id other).trans ?_
  have isSeen : session.storage.view.row? session.storage.table id = some row := isStored
  by_cases same : other = id
  · rw [if_pos same, if_pos same, same, isSeen]
    rfl
  · rw [if_neg same, if_neg same]
    rfl

theorem Ready.put_missing
    (ready : session.Ready table)
    (checked : session.storage.schema.check record = .ok ())
    {id : Int64}
    (named : record.id = some id)
    (hasFields : record.fields.entries ≠ [])
    (isMissing : session.row? id = none) :
    (session.perform (.put record)).1 = .error (.recordNotFound id) ∧
      (session.perform (.put record)).2.view = session.view := by
  have refuses := ready.storeRecord_eq checked named
  rw [if_neg hasFields, (ready.row?_eq_none_iff id).mp isMissing] at refuses
  obtain ⟨fails, kept⟩ := ready.put_error checked refuses
  exact ⟨fails, kept nofun⟩

theorem Ready.put_nothing
    (ready : session.Ready table)
    (checked : session.storage.schema.check record = .ok ())
    {id : Int64}
    (named : record.id = some id)
    (hasNone : record.fields.entries = []) :
    (session.perform (.put record)).1 = .error (.record (.nothingToUpdate id)) ∧
      (session.perform (.put record)).2.view = session.view := by
  have refuses := ready.storeRecord_eq checked named
  rw [if_pos hasNone] at refuses
  obtain ⟨fails, kept⟩ := ready.put_error checked refuses
  exact ⟨fails, kept nofun⟩

end Ways

/-- A row is read back as it is seen, unless it has too many columns for a result. -/
theorem HasCreated.getById_eq
    (created : session.HasCreated)
    (narrow : session.storage.schema.fields.length < Database.maximalColumns)
    (id : Int64) :
    (session.perform (.getById id)).1 =
      .ok (.record ((session.row? id).map fun row => .ofRow id row)) := by
  rcases created.exists_ready with ⟨table, ready⟩
  rw [ready.perform_eq]
  simp only [Storage.perform, Storage.observe, ready.storage.getById_eq narrow]
  rfl

/--
Putting a record changes one row.

Without an identity the record becomes a new row, as long as there are greater
ids than those in use; with one it overwrites the columns that it names in the
row stored under it, which must exist.  The row is read back as it has become
when a result has room for its columns and the id, and its values are those
that were put, as they come back from being stored.
-/
theorem put_changes_one_row
    (created : session.HasCreated)
    (record : Record)
    (belongs : ∀ name ∈ record.fields.names, name ∈ session.storage.schema.fields) :
    (record.id = none → session.HasRoom →
      ∃ id, session.row? id = none ∧
        (session.perform (.put record)).1 = .ok (.id id) ∧
          session.RowBecomes (session.perform (.put record)).2 id
            (record.newRow session.storage.schema.fields)) ∧
      (∀ id, record.id = some id → record.fields.entries ≠ [] →
        ∀ row, session.row? id = some row →
          (session.perform (.put record)).1 = .ok (.id id) ∧
            session.RowBecomes (session.perform (.put record)).2 id (record.changedRow row)) ∧
        (∀ id, record.id = some id → record.fields.entries ≠ [] → session.row? id = none →
          (session.perform (.put record)).1 = .error (.recordNotFound id) ∧
            (session.perform (.put record)).2.view = session.view) ∧
          (∀ id, record.id = some id → record.fields.entries = [] →
            (session.perform (.put record)).1 = .error (.record (.nothingToUpdate id)) ∧
              (session.perform (.put record)).2.view = session.view) ∧
            (session.storage.schema.fields.length < Database.maximalColumns →
              ∀ id,
                ((session.perform (.put record)).2.perform (.getById id)).1 =
                  .ok
                    (.record
                      (((session.perform (.put record)).2.row? id).map fun row =>
                        .ofRow id row))) ∧
              (∀ id, ∀ name ∈ session.storage.schema.fields,
                (Record.ofRow id
                      (record.newRow session.storage.schema.fields)).fields.get? name =
                  some ((record.fields.get? name).getD .null).stored) ∧
                ∀ id row, session.row? id = some row →
                  ∀ name,
                    (Record.ofRow id (record.changedRow row)).fields.get? name =
                      ((Record.ofRow id row).fields.get? name).map fun old =>
                        ((record.fields.get? name).map Value.stored).getD old := by
  rcases created.exists_ready with ⟨table, ready⟩
  have checked : session.storage.schema.check record = .ok () :=
    (Storage.check_eq_ok_iff _ record).mpr belongs
  have apart : session.storage.schema.fields.Nodup := ready.storage.areFields.nodup
  refine ⟨?_, ?_, ?_, ?_, ?_, ?_, ?_⟩
  · intro unnamed room
    exact ready.put_new checked unnamed room
  · intro id named hasFields row isStored
    exact ready.put_stored checked named hasFields isStored
  · intro id named hasFields isMissing
    exact ready.put_missing checked named hasFields isMissing
  · intro id named hasNone
    exact ready.put_nothing checked named hasNone
  · intro narrow id
    apply (created.perform (.put record)).getById_eq
    rw [schema_perform]
    exact narrow
  · intro id name isField
    exact record.get?_ofRow_newRow apart id isField
  · intro id row isStored name
    exact record.get?_ofRow_changedRow (ready.columns_of_row? isStored ▸ apart) id name

/-- The fields of some people. -/
def people : Schema :=
  ⟨["name", "active", "score"], by decide +kernel⟩

theorem hasCreated_people : (inMemory people .everyPut).HasCreated := by
  have accepted : Schema.ofNames ["name", "active", "score"] = .ok people := by decide +kernel
  have checked : Database.checkColumns "t" [] people.fields = .ok () := by decide
  exact ⟨_, [], creates_inMemory accepted checked .everyPut, rfl⟩

/-- Of a person that is put and changed, the name stays, the flag is a number, and a NaN is null. -/
theorem person_put_twice :
    let person : Record :=
      ⟨none, .ofList [("active", .boolean true), ("name", .text "Ada"), ("score", .integer 7)]⟩
    let started := ((inMemory people .everyPut).perform (.put person)).2
    ∃ id,
      let change : Record := ⟨some id, .ofList [("score", .real ⟨0x7FF8000000000000⟩)]⟩
      (started.perform (.put change)).1 = .ok (.id id) ∧
        (started.perform (.put change)).2.row? id =
          some [("name", .text [65, 100, 97]), ("active", .integer 1), ("score", .null)] := by
  intro person started
  have noRow : (inMemory people .everyPut).HasRoom := fun _ _ isRow => by cases isRow
  rcases (put_changes_one_row hasCreated_people person (by decide)).1 rfl noRow with
    ⟨id, _, _, isNew⟩
  let change : Record := ⟨some id, .ofList [("score", .real ⟨0x7FF8000000000000⟩)]⟩
  have belongs : ∀ name ∈ change.fields.names, name ∈ started.storage.schema.fields := by
    intro name member
    cases List.mem_singleton.mp member
    rw [schema_perform]
    decide
  have changes :=
    (put_changes_one_row (hasCreated_people.perform (.put person)) change belongs).2.1 id rfl
      (List.cons_ne_nil _ _) _ isNew.becomes
  exact ⟨id, changes.1, changes.2.becomes⟩

/-- In the widest table a row can be put, and cannot be read back. -/
theorem widest_row_is_not_read_back :
    (inMemory Wide.schema .manual).HasCreated ∧
      ∃ id,
        ((inMemory Wide.schema .manual).perform (.put .empty)).1 = .ok (.id id) ∧
          (((inMemory Wide.schema .manual).perform (.put .empty)).2.perform (.getById id)).1 =
            .error (.database .tooManyResultColumns) := by
  have created : (inMemory Wide.schema .manual).HasCreated := ⟨_, [], Wide.creates_wide, rfl⟩
  rcases created.exists_ready with ⟨table, ready⟩
  rcases (created.perform (.put .empty)).exists_ready with ⟨changed, readyAfter⟩
  have checked : (inMemory Wide.schema .manual).storage.schema.check .empty = .ok () := rfl
  have room : (inMemory Wide.schema .manual).HasRoom := fun _ _ isRow => by cases isRow
  rcases ready.put_new checked rfl room with ⟨id, _, isPut, _⟩
  refine ⟨created, id, isPut, ?_⟩
  have wide : Database.maximalColumns ≤ Wide.schema.fields.length := Wide.length_names.ge
  rw [readyAfter.perform_eq]
  simp only [Storage.perform, Storage.observe]
  rw [readyAfter.storage.getById_of_wide]
  · rfl
  · rw [schema_perform]
    exact wide

end Session

end RecordStore
