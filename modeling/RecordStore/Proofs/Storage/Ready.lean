import RecordStore.Proofs.Database.Lawful
import RecordStore.Proofs.Storage.Seen

/-!
# Storages that are ready

A storage is ready when it sees a table that was created for its schema, and
nothing hinders it.  Then its operations do what their statements say, and
whatever is asked of it leaves it ready: with the table that its statements
have made, or with the one that was committed before.

Main statements: `Storage.Sound.step`, `Storage.Ready.get_eq_ok_iff`,
`Storage.Ready.count_eq_ok_iff` and `Storage.Ready.deleteMatching_eq_ok_iff`.
-/

namespace RecordStore

open Sql (Condition Statement)

/-- The record that a row of a table is read as. -/
def Table.recordOf (table : Table) (row : Row) : Record :=
  .ofRow row.id (table.columns.zip row.cells)

/-- Rows of a table that carries fields are read as records. -/
theorem Database.records_resultOf
    {table : Table}
    {fields : List String}
    (carries : table.Carries fields)
    (areFields : AreFields fields)
    {rows : List Row}
    (areRows : ∀ row ∈ rows, row ∈ table.rows) :
    (resultOf table rows).records = .ok (rows.map table.recordOf) := by
  have columns := carries.columns
  subst columns
  have each :
      ∀ row ∈ rows,
        Record.empty.addColumns 0
            ((identityColumn table :: table.columns).zip
              (row.read (identitySource table) :: row.cells)) =
          .ok (table.recordOf row) := by
    intro row member
    rw [Table.identityColumn_eq areFields carries.noKey, Table.identitySource_eq areFields]
    apply Record.addColumns_ofRow
    · intro entry isEntry
      exact areFields.sameName_rowIdName entry.1 (List.of_mem_zip isEntry).1
    · intro entry isEntry
      exact carries.stored row (areRows row member) entry.2 (List.of_mem_zip isEntry).2
  rw [ResultSet.records, resultOf, List.mapM_map]
  clear areRows
  induction rows with
  | nil => rfl
  | cons row rest induction =>
      rw [List.mapM_cons, Function.comp_apply, each row List.mem_cons_self,
        induction fun other member => each other (List.mem_cons_of_mem row member)]
      rfl

namespace Storage

/-- The storage sees a table that was created for its schema, and nothing hinders it. -/
structure Ready (storage : Storage) (table : Table) : Prop where
  found : storage.view.table? storage.table = some table
  suits : table.Suits storage.schema.fields
  areFields : AreFields storage.schema.fields
  readable : storage.readHindrance = none
  writable : storage.writeHindrance = none
  committable : storage.commitHindrance = none

/-- The name of a table is an identifier, in which there is no placeholder. -/
theorem marks_table (storage : Storage) : Sql.marks storage.table = 0 :=
  (Database.isColumn_of_check storage.isIdentifier).count_placeholder

theorem fits_of_check
    {schema : Schema}
    {record : Record}
    (checked : schema.check record = .ok ()) :
    Database.Fits schema.fields record.fields.entries := by
  constructor
  · intro entry member
    rw [Schema.check] at checked
    split at checked
    · contradiction
    · next complete =>
        have known :=
          List.find?_eq_none.mp complete entry.1 (List.mem_map_of_mem member)
        simpa [Schema.contains] using known
  · apply List.pairwise_map.mpr
    apply record.fields.ascending.imp
    intro earlier later less same
    rw [same] at less
    exact String.lt_irrefl _ less

/-- A record is checked for nothing but that its fields belong to the schema. -/
theorem check_eq_ok_iff (schema : Schema) (record : Record) :
    schema.check record = .ok () ↔ ∀ name ∈ record.fields.names, name ∈ schema.fields := by
  rw [Schema.check]
  split
  · next name unknown =>
      have member := List.mem_of_find?_eq_some unknown
      have notKnown := List.find?_some unknown
      simp only [Schema.contains, Bool.not_eq_true', List.contains_eq_mem,
        decide_eq_false_iff_not] at notKnown
      simp only [reduceCtorEq, false_iff]
      intro known
      exact notKnown (known name member)
  · next complete =>
      simp only [true_iff]
      intro name member
      have known := List.find?_eq_none.mp complete name member
      simpa [Schema.contains] using known

namespace Ready

variable {storage : Storage} {table : Table}

theorem reading_eq
    (ready : storage.Ready table)
    {α : Type}
    (outcome : Except DatabaseFault α) :
    storage.reading outcome = outcome.mapError .database := by
  rw [reading, ready.readable]
  rfl

theorem writing_eq
    (ready : storage.Ready table)
    {α : Type}
    (outcome : Except DatabaseFault α) :
    storage.writing outcome = outcome.mapError .database := by
  rw [writing, ready.writable]
  rfl

/-- A storage that has gone on from a ready one is ready with what it sees then. -/
theorem of_continues
    (ready : storage.Ready table)
    {after : Storage}
    (continues : Continues storage after)
    {changed : Table}
    (found : after.view.table? storage.table = some changed)
    (suits : changed.Suits storage.schema.fields) :
    after.Ready changed := by
  have sameTable : after.table = storage.table := continues.table_eq
  constructor
  · rw [sameTable]
    exact found
  · rw [continues.schema_eq]
    exact suits
  · rw [continues.schema_eq]
    exact ready.areFields
  · rw [continues.readHindrance_eq]
    exact ready.readable
  · rw [continues.writeHindrance_eq]
    exact ready.writable
  · rw [continues.commitHindrance_eq]
    exact ready.committable

theorem begin (ready : storage.Ready table) : storage.begin.Ready table := by
  apply ready.of_continues storage.continues_begin
  · rw [view_begin]
    exact ready.found
  · exact ready.suits

/-! ## Reading -/

theorem row?_eq (ready : storage.Ready table) (id : Int64) :
    storage.view.row? storage.table id =
      (table.row? id).map fun row => table.columns.zip row.cells :=
  Database.row?_eq ready.found id

theorem get_eq_ok_iff
    (ready : storage.Ready table)
    (filter : Filter)
    (records : List Record) :
    storage.get filter = .ok records ↔
      ∃ restriction, filter.restriction = .ok restriction ∧
        table.Admits storage.table restriction.condition ∧
          storage.schema.fields.length < Database.maximalColumns ∧
            records = (table.matching restriction.condition).map table.recordOf := by
  have areRead (condition : Option (Condition Value)) :=
    Database.records_resultOf ready.suits.carries ready.areFields fun row member =>
      ((table.mem_matching condition row).mp member).1
  simp only [get, select, Filter.restriction, Outcome.bind_eq_ok_iff, Outcome.mapError_eq_ok_iff,
    ready.reading_eq, Database.select_eq_ok_iff (Database.getTable_eq ready.found),
    ready.suits.columns]
  constructor
  · rintro ⟨criteria, accepted, restriction, restricts, result, ⟨admits, narrow, rfl⟩, read⟩
    refine ⟨restriction, ⟨criteria, accepted, restricts⟩, admits, narrow, ?_⟩
    exact Except.ok.inj (read.symm.trans (areRead restriction.condition))
  · rintro ⟨restriction, ⟨criteria, accepted, restricts⟩, admits, narrow, rfl⟩
    exact
      ⟨criteria, accepted, restriction, restricts, _, ⟨admits, narrow, rfl⟩,
        areRead restriction.condition⟩

theorem restriction_identity (id : Int64) :
    Filter.restriction (.identity id) = .ok ⟨some (Condition.ofId id)⟩ :=
  rfl

theorem admits_ofId (ready : storage.Ready table) (id : Int64) :
    table.Admits storage.table (some (Condition.ofId id)) := by
  have areFields : AreFields table.columns := by
    rw [ready.suits.columns]
    exact ready.areFields
  constructor
  · intro inner isInner
    cases isInner
    show 2 ≤ DatabaseFault.maximalDepth
    decide
  · rw [marks_table]
    have one : Sql.marks (Condition.ofId id).text = 1 := by
      rw [Sql.marks, Condition.text, String.toList_ofList]
      show ("rowid".toList ++ ' ' :: "=".toList ++ [' ', '?']).count '?' = 1
      decide
    show 0 + Sql.marks (Condition.ofId id).text ≤ _
    rw [one]
    decide
  · intro inner isInner column isColumn
    cases isInner
    cases List.mem_singleton.mp isColumn
    rw [Table.source?_rowIdName areFields]
    rfl

theorem get_of_wide
    (ready : storage.Ready table)
    {filter : Filter}
    {restriction : Restriction}
    (restricts : filter.restriction = .ok restriction)
    (admits : table.Admits storage.table restriction.condition)
    (wide : Database.maximalColumns ≤ storage.schema.fields.length) :
    storage.get filter = .error (.database .tooManyResultColumns) := by
  rcases Outcome.bind_eq_ok_iff.mp restricts with ⟨criteria, accepted, restrictsCriteria⟩
  rw [← ready.suits.columns] at wide
  have refused := Database.select_of_wide (Database.getTable_eq ready.found) admits wide
  simp only [get, select, accepted, restrictsCriteria, Outcome.mapError_ok, Outcome.ok_bind,
    ready.reading_eq, refused, Outcome.mapError_error, Outcome.error_bind]

theorem count_eq_ok_iff
    (ready : storage.Ready table)
    (filter : Filter)
    (number : Nat) :
    storage.count filter = .ok number ↔
      ∃ restriction, filter.restriction = .ok restriction ∧
        table.Admits storage.table restriction.condition ∧
          number = (table.matching restriction.condition).length := by
  simp only [count, restriction, Outcome.bind_eq_ok_iff, Outcome.mapError_eq_ok_iff,
    ready.reading_eq, Database.count_eq_ok_iff (Database.getTable_eq ready.found)]

/-! ## Removing -/

/-- The database without the rows of which a condition holds. -/
def without
    (storage : Storage)
    (table : Table)
    (condition : Option (Condition Value)) :
    Database :=
  storage.view.replaceTable { table with rows := table.others condition }

theorem table?_replaceTable
    (ready : storage.Ready table)
    {changed : Table}
    (keepsName : changed.name = table.name) :
    (storage.view.replaceTable changed).table? storage.table = some changed := by
  rw [Database.table?_replaceTable ready.found keepsName, Text.sameName_self]
  rfl

theorem deleteMatching_eq_ok_iff
    (ready : storage.Ready table)
    (restriction : Restriction)
    (number : Nat)
    (after : Storage) :
    storage.deleteMatching restriction = (.ok number, after) ↔
      table.Admits storage.table restriction.condition ∧
        number = (table.matching restriction.condition).length ∧
          after = storage.begin.write (without storage table restriction.condition) := by
  have begun := ready.begin
  have sameTable : storage.begin.table = storage.table := storage.continues_begin.table_eq
  have deletes :=
    Database.delete_eq_ok_iff (Database.getOwnTable_eq ready.found ready.suits.own)
      restriction.condition
  rw [deleteMatching, begun.writing_eq, view_begin, sameTable]
  cases outcome : storage.view.delete storage.table restriction.condition with
  | error fault =>
      have refused : ¬ table.Admits storage.table restriction.condition := by
        intro admits
        have accepted := (deletes _).mpr ⟨admits, rfl⟩
        rw [outcome] at accepted
        contradiction
      simp [refused]
  | ok entry =>
      rcases (deletes entry).mp outcome with ⟨admits, rfl⟩
      simp only [Outcome.mapError_ok, Prod.mk.injEq, Except.ok.injEq, admits, true_and]
      constructor
      · rintro ⟨rfl, rfl⟩
        exact ⟨rfl, rfl⟩
      · rintro ⟨rfl, rfl⟩
        exact ⟨rfl, rfl⟩

/-- The storage after a removal sees the rows that were not met. -/
theorem removed
    (ready : storage.Ready table)
    (condition : Option (Condition Value)) :
    (storage.begin.write (without storage table condition)).Ready
      { table with rows := table.others condition } := by
  apply ready.of_continues (storage.continues_begin.trans (continues_write _ _))
  · exact ready.table?_replaceTable rfl
  · exact ready.suits.filter _

/-! ## Putting -/

/-- The table with a new row for a record. -/
def inserted (table : Table) (record : Record) (id : Int64) : Table :=
  { table with
    rows :=
      Table.insertRow ⟨id, Database.newCellsOf table.columns record.fields.entries⟩ table.rows }

/-- The table with what a record names overwritten in the row under an id. -/
def updated (table : Table) (record : Record) (id : Int64) : Table :=
  { table with
    rows := table.rows.map fun row =>
      if row.id == id then
        row.overwrite
          (table.placed (record.fields.entries.map fun entry => (entry.1, Cell.ofValue entry.2)))
      else row }

theorem insertRecord_eq
    (ready : storage.Ready table)
    {record : Record}
    (checked : storage.schema.check record = .ok ()) :
    storage.insertRecord record =
      ((Database.freshId table).map fun id =>
        (id, storage.view.replaceTable (inserted table record id))).mapError .database := by
  rw [insertRecord, ready.writing_eq,
    Database.execute_insert_eq ready.found ready.suits ready.areFields (fits_of_check checked)
      storage.isIdentifier,
    ← ready.suits.columns]
  cases Database.freshId table <;> rfl

theorem updateRecord_eq
    (ready : storage.Ready table)
    {record : Record}
    (checked : storage.schema.check record = .ok ())
    (id : Int64) :
    storage.updateRecord id record =
      if record.fields.entries = [] then .error (.record (.nothingToUpdate id))
      else if (table.row? id).isSome then
        .ok (id, storage.view.replaceTable (updated table record id))
      else .error (.recordNotFound id) := by
  rw [updateRecord]
  by_cases hasNothing : record.fields.entries = []
  · simp [hasNothing]
  · rw [if_neg (by simpa using hasNothing), if_neg hasNothing]
    dsimp only
    rw [ready.writing_eq,
      Database.execute_update_eq ready.found ready.suits ready.areFields (fits_of_check checked)
        storage.isIdentifier hasNothing,
      Outcome.mapError_ok, Outcome.ok_bind]
    by_cases isStored : (table.row? id).isSome = true
    · simp [isStored, updated]
    · simp [isStored]

theorem suits_inserted
    (ready : storage.Ready table)
    (record : Record)
    {id : Int64}
    (isFree : table.row? id = none) :
    (inserted table record id).Suits storage.schema.fields := by
  apply ready.suits.insertRow isFree
  · rw [← ready.suits.columns]
    exact List.length_map _
  · intro cell member
    rcases List.mem_map.mp member with ⟨column, _, rfl⟩
    exact Cell.isStored_ofValue _

theorem suits_updated
    (ready : storage.Ready table)
    (record : Record)
    (id : Int64) :
    (updated table record id).Suits storage.schema.fields := by
  apply ready.suits.overwrite
  intro cell member
  simp only [Table.placed, List.map_map, List.mem_map, Function.comp_apply] at member
  rcases member with ⟨entry, _, rfl⟩
  exact Cell.isStored_ofValue entry.2

/-! ## Steps -/

/-- What the statements of a storage make of its table. -/
inductive Becomes (table : Table) : Table → Prop where
  | same : Becomes table table
  | removed (condition : Option (Condition Value)) :
      Becomes table { table with rows := table.others condition }
  | updated (record : Record) (id : Int64) : Becomes table (updated table record id)
  | inserted
      (record : Record)
      {id : Int64}
      (isFresh : Database.freshId table = .ok id) :
      Becomes table (inserted table record id)

/-- A record that is stored changes the table in one of two ways. -/
theorem storeRecord_eq_ok
    (ready : storage.Ready table)
    {record : Record}
    (checked : storage.schema.check record = .ok ())
    {id : Int64}
    {database : Database}
    (stores : storage.storeRecord record = .ok (id, database)) :
    ∃ changed : Table, Becomes table changed ∧ changed.name = table.name ∧
      changed.Suits storage.schema.fields ∧ database = storage.view.replaceTable changed := by
  rw [storeRecord] at stores
  split at stores
  · next given =>
      rw [ready.updateRecord_eq checked] at stores
      split at stores
      · contradiction
      · split at stores
        · cases stores
          exact
            ⟨updated table record id, .updated record id, rfl, ready.suits_updated record id, rfl⟩
        · contradiction
  · rw [ready.insertRecord_eq checked] at stores
    cases isFresh : Database.freshId table with
    | error fault =>
        rw [isFresh] at stores
        contradiction
    | ok fresh =>
        rw [isFresh] at stores
        cases stores
        exact
          ⟨inserted table record id, .inserted record isFresh, rfl,
            ready.suits_inserted record (Database.row?_of_freshId isFresh), rfl⟩

end Ready

/-! ## What is kept -/

/--
The storage is ready with a table of a kind, and it would still be if its
transaction were lost.
-/
structure Sound (kept : Table → Prop) (storage : Storage) : Prop where
  seen : ∃ table, storage.Ready table ∧ kept table
  saved : ∃ table, storage.close.Ready table ∧ kept table

namespace Sound

variable {kept : Table → Prop} {storage after : Storage}

/-- A storage that has gone on from a sound one is sound with what it sees and has committed. -/
theorem of_continues
    (sound : storage.Sound kept)
    (continues : Continues storage after)
    (seen : ∃ table, after.Ready table ∧ kept table)
    (saved : after.committed = storage.committed ∨ after.committed = after.view) :
    after.Sound kept := by
  refine ⟨seen, ?_⟩
  have closes : Continues after after.close := continues_close after
  rcases saved with same | published
  · obtain ⟨table, ready, isKept⟩ := sound.saved
    have goesOn : Continues storage.close after.close := by
      have both := continues.trans closes
      rw [Continues] at both ⊢
      rw [both]
      rfl
    refine ⟨table, ready.of_continues goesOn ?_ ready.suits, isKept⟩
    show after.committed.table? storage.table = _
    rw [same]
    exact ready.found
  · obtain ⟨table, ready, isKept⟩ := seen
    refine ⟨table, ready.of_continues closes ?_ ready.suits, isKept⟩
    show after.committed.table? after.table = _
    rw [published]
    exact ready.found

/-- Whatever a stage does, a sound storage is sound after it. -/
theorem step
    (sound : storage.Sound kept)
    (keeps : ∀ table changed, Ready.Becomes table changed → kept table → kept changed)
    {stage : Stage}
    (step : Step storage stage) :
    stage.storage.Sound kept := by
  have continues := step.continues
  obtain ⟨table, ready, isKept⟩ := sound.seen
  cases step with
  | @rested after rests =>
      apply sound.of_continues continues _ (.inl rests.committed_eq)
      rcases rests.view_eq_or with sameView | ⟨rfl, _⟩
      · refine ⟨table, ready.of_continues continues ?_ ready.suits, isKept⟩
        exact (congrArg (Database.table? · storage.table) sameView).trans ready.found
      · exact sound.saved
  | @removed restriction number database deletes =>
      have removes :
          storage.deleteMatching restriction = (.ok number, storage.begin.write database) := by
        rw [deleteMatching, deletes]
      obtain ⟨_, _, isWritten⟩ :=
        (ready.deleteMatching_eq_ok_iff restriction number _).mp removes
      apply sound.of_continues continues _ (.inl (committed_begin storage))
      rw [isWritten]
      exact
        ⟨_, ready.removed restriction.condition,
          keeps table _ (.removed restriction.condition) isKept⟩
  | @stored record id database after checked stores counts =>
      obtain ⟨changed, becomes, keepsName, suits, rfl⟩ := ready.storeRecord_eq_ok checked stores
      have counted :=
        counts_countPut (storage.entered record id (storage.view.replaceTable changed))
      rw [counts] at counted
      have sameView : after.view = storage.view.replaceTable changed :=
        counted.view_eq_of_ok.trans (view_entered storage record id _)
      apply sound.of_continues continues
      · refine ⟨changed, ready.of_continues continues ?_ suits, keeps table _ becomes isKept⟩
        rw [sameView]
        exact ready.table?_replaceTable keepsName
      · rcases counted.committed_eq_or with same | published
        · exact .inl (same.trans (committed_entered storage record id _))
        · exact .inr (published.trans counted.view_eq_of_ok.symm)
  | @unsettled record id database error after checked stores counts =>
      have counted := counts_countPut (storage.entered record id database)
      rw [counts] at counted
      have hinders := counted.ne_error
      rw [(storage.continues_entered record id database).commitHindrance_eq] at hinders
      exact absurd ready.committable hinders
  | committed =>
      apply sound.of_continues continues _ (.inr rfl)
      exact ⟨table, ready.of_continues continues ready.found ready.suits, isKept⟩

end Sound

end Storage

end RecordStore
