import RecordStore.Proofs.Database.Identity
import RecordStore.Proofs.Storage.Invariant
import RecordStore.Proofs.Storage.Lifetime
import RecordStore.Proofs.Workspace.Way
import RecordStore.Storage.Scene

/-!
# Columns that are never taken away

No statement of a storage takes columns from a table, and none that opens a
storage does.  So the database in a file has a table with its columns whatever
storages do, to that database or to others.

Main statements: `Storage.holds_of_tries` and `Storage.holds_of_perform`.
-/

namespace RecordStore

/-! ## Columns of a table -/

namespace Database

variable {database changed : Database} {name other : String} {columns : List String}

/-- A table that takes the place of one with the same columns takes columns from no table. -/
theorem HasColumns.replaceTable
    (hasColumns : database.HasColumns name columns)
    {table replaced : Table}
    (found : database.table? other = some table)
    (keepsName : replaced.name = table.name)
    (keepsColumns : replaced.columns = table.columns) :
    (database.replaceTable replaced).HasColumns name columns := by
  rw [HasColumns, table?_replaceTable found keepsName]
  split
  · next same =>
      rw [HasColumns, table?_congr same, found] at hasColumns
      rw [← hasColumns, Option.map_some, Option.map_some, keepsColumns]
  · exact hasColumns

/-- A table keeps its columns where rows change, in it or in another one. -/
theorem HasColumns.of_changesRows
    (hasColumns : database.HasColumns name columns)
    (changes : database.ChangesRows other changed) :
    changed.HasColumns name columns := by
  cases changes with
  | none => exact hasColumns
  | rows isOwn rows => exact hasColumns.replaceTable (table?_of_getOwnTable isOwn) rfl rfl

/-- A table that is created besides the others leaves them their columns. -/
theorem HasColumns.of_createTable
    (hasColumns : database.HasColumns name columns)
    (isMissing : database.table? other = none)
    {newColumns : List String}
    (creates : database.createTable other newColumns = .ok changed) :
    changed.HasColumns name columns := by
  rcases Option.map_eq_some_iff.mp hasColumns with ⟨table, found, isColumns⟩
  rw [HasColumns, (table?_of_createTable isMissing creates).2 name, found, Option.some_or,
    Option.map_some, isColumns]

theorem HasColumns.ne_empty (hasColumns : database.HasColumns name columns) :
    database ≠ .empty := by
  rintro rfl
  cases hasColumns

end Database

namespace Storage

variable {name : String} {columns : List String}

/-- Statements on any table take no columns. -/
theorem preserves_hasColumns (table : String) (schema : Schema) :
    Preserves table schema fun database => database.HasColumns name columns where
  delete := fun hasColumns deletes =>
    hasColumns.of_changesRows (Database.changesRows_of_delete deletes)
  store := by
    rintro storage record id changed - rfl hasColumns checked stores
    exact hasColumns.of_changesRows (changesRows_of_storeRecord checked stores)

end Storage

/-! ## Files with the table -/

/-- The database at a place has a table with some columns. -/
def Workspace.Holds
    (workspace : Workspace)
    (place : Path.Place)
    (name : String)
    (columns : List String) :
    Prop :=
  ∃ database, workspace.database place = .ok database ∧ database.HasColumns name columns

namespace Workspace

variable
  {workspace : Workspace}
  {place : Path.Place}
  {connection : Connection}
  {name : String}
  {columns : List String}

theorem Holds.congr
    (holds : workspace.Holds place name columns)
    {other : Workspace}
    (same : other.database place = workspace.database place) :
    other.Holds place name columns := by
  rw [Holds, same]
  exact holds

theorem Holds.kind?_eq (holds : workspace.Holds place name columns) :
    workspace.kind? place = some .file := by
  rcases holds with ⟨database, isDatabase, hasColumns⟩
  exact kind?_eq_file_iff.mpr (exists_file_of_database isDatabase hasColumns.ne_empty)

/-- Saving a database elsewhere leaves the one at a place alone. -/
theorem database_save_of_apart
    (apart : connection.place ≠ some place)
    (database : Database) :
    (workspace.save connection database).database place = workspace.database place := by
  cases isOwn : connection.place with
  | none => simp only [save, isOwn]
  | some own =>
      rcases workspace.save_eq_or isOwn database with same | ⟨_, _, written⟩
      · rw [same]
      · have isOther : place ≠ own := by
          rintro rfl
          exact apart isOwn
        rw [written, Workspace.database, entry?_setEntry_other isOther, Workspace.database]

/-- A database with the columns may be saved in the file, and any database elsewhere. -/
theorem Holds.save
    (holds : workspace.Holds place name columns)
    {database : Database}
    (hasColumns :
      connection.place = some place → connection.isFrozen = false →
        database.HasColumns name columns) :
    (workspace.save connection database).Holds place name columns := by
  by_cases isPlace : connection.place = some place
  · rcases workspace.save_eq_or isPlace database with same | ⟨_, notFrozen, written⟩
    · rw [same]
      exact holds
    · rcases kind?_eq_file_iff.mp holds.kind?_eq with ⟨content, stands⟩
      have isFilePlace : Path.IsFilePlace place := by
        apply isFilePlace_of_ne_directory workspace
        rw [stands]
        simp
      rw [written]
      exact
        ⟨database, database_of_file (entry?_setEntry_self isFilePlace _),
          hasColumns isPlace notFrozen⟩
  · exact holds.congr (database_save_of_apart isPlace database)

end Workspace

namespace Storage

variable
  {workspace after : Workspace}
  {storage : Storage}
  {place : Path.Place}
  {name : String}
  {columns : List String}

/-- If a storage is changing the database at a place, the table has the columns in what it sees. -/
def HasAt
    (storage : Storage)
    (place : Path.Place)
    (name : String)
    (columns : List String) :
    Prop :=
  storage.connection.place = some place → storage.connection.isFrozen = false →
    storage.isWriting = true → storage.view.HasColumns name columns

theorem HasAt.of_quiet
    (isQuiet : storage.connection.place = some place → storage.isWriting = false) :
    storage.HasAt place name columns := by
  intro isPlace _ isWriting
  rw [isQuiet isPlace] at isWriting
  cases isWriting

/-- A storage that looks into the file sees the columns there, if it is not changing them. -/
theorem HasAt.refresh
    (has : storage.HasAt place name columns)
    (holds : workspace.Holds place name columns)
    (isPlace : storage.connection.place = some place)
    (notFrozen : storage.connection.isFrozen = false) :
    (storage.refresh workspace).Has fun database => database.HasColumns name columns := by
  rcases holds with ⟨database, isDatabase, hasColumns⟩
  have committed : (storage.refresh workspace).committed = database := by
    simp [Storage.refresh, notFrozen, isPlace, isDatabase]
  refine ⟨committed ▸ hasColumns, ?_⟩
  cases isTransaction : storage.transaction with
  | writing working isExclusive =>
      have sameView : (storage.refresh workspace).view = storage.view := by
        simp only [Storage.view, Storage.refresh, isTransaction]
      rw [sameView]
      exact has isPlace notFrozen ((isWriting_iff _).mpr ⟨working, isExclusive, isTransaction⟩)
  | idle | begun | reading =>
      have sameView : (storage.refresh workspace).view = database := by
        rw [← committed]
        simp only [Storage.view, Storage.refresh, isTransaction]
      rw [sameView]
      exact hasColumns

/-! ## Opening -/

/-- A storage is opened, or cannot be. -/
inductive Tries (workspace : Workspace) : Except Error Storage × Workspace → Prop where
  | opened
      {storage : Storage}
      {after : Workspace}
      (opens : Session.Opens workspace ⟨storage, after⟩) :
      Tries workspace (.ok storage, after)
  | failed
      {error : Error}
      {after : Workspace}
      (fails : FailsToOpen workspace after) :
      Tries workspace (.error error, after)

theorem tries_openTable
    (workspace : Workspace)
    (schema : Schema)
    (text : String)
    (policy : AutoCommit) :
    Tries workspace (openTable workspace schema text policy) := by
  rcases opens : openTable workspace schema text policy with ⟨error | storage, after⟩
  · exact .failed (failsToOpen_of_openTable opens)
  · exact .opened (.inl ⟨schema, text, policy, opens⟩)

theorem tries_openExisting (workspace : Workspace) (text : String) (policy : AutoCommit) :
    Tries workspace (openExisting workspace text policy) := by
  rcases opens : openExisting workspace text policy with ⟨error | storage, after⟩
  · exact .failed (failsToOpen_of_openExisting opens)
  · exact .opened (.inr ⟨text, policy, opens⟩)

/-- A storage that has just been opened is not changing anything. -/
theorem isWriting_of_tries
    {result : Except Error Storage × Workspace}
    (tries : Tries workspace result) :
    ∀ storage ∈ result.1.toOption, storage.isWriting = false := by
  cases tries with
  | failed fails => exact fun _ isOpened => by cases isOpened
  | opened opens =>
      intro _ isOpened
      cases isOpened
      rcases Session.exists_opened_of_opens opens with ⟨_, _, _, _, _, _, _, isStorage⟩
      have isStorage := congrArg isWriting isStorage
      exact isStorage

/-- Opening a storage takes no columns, wherever that is and whether it succeeds. -/
theorem holds_of_tries
    (holds : workspace.Holds place name columns)
    (onDisk : Path.isInMemory place = false)
    {result : Except Error Storage × Workspace}
    (tries : Tries workspace result) :
    result.2.Holds place name columns := by
  cases tries with
  | failed fails => exact holds.congr (fails.database_eq onDisk)
  | @opened storage after opens =>
      by_cases isPlace : storage.connection.place = some place
      · rcases holds with ⟨database, isDatabase, hasColumns⟩
        rcases provides_of_opens opens isPlace with ⟨known, isKnown, provides⟩
        cases isDatabase.symm.trans isKnown
        have committed : storage.committed.HasColumns name columns := by
          cases provides with
          | same => exact hasColumns
          | created isMissing creates => exact hasColumns.of_createTable isMissing creates
        exact ⟨_, (Session.settled_of_opens opens).holds place isPlace, committed⟩
      · exact holds.congr (database_of_opens opens isPlace)

/-! ## Asking -/

theorem holds_of_perform
    (holds : workspace.Holds place name columns)
    (has : storage.HasAt place name columns)
    (operation : Operation) :
    (storage.run workspace fun storage => storage.perform operation).2.2.Holds place name columns ∧
      (storage.run workspace fun storage => storage.perform operation).2.1.HasAt place name
        columns := by
  -- A storage looks into the file before it acts, and what it sees then is what it changes.
  let current := storage.refresh workspace
  let last := (current.perform operation).2
  have sameConnection : last.connection = storage.connection :=
    (current.continues_perform operation).connection_eq
  have hasLast
      (isPlace : last.connection.place = some place)
      (notFrozen : last.connection.isFrozen = false) :
      last.Has fun database => database.HasColumns name columns := by
    rw [sameConnection] at isPlace notFrozen
    exact (has.refresh holds isPlace notFrozen).perform (preserves_hasColumns _ _) operation
  refine ⟨?_, fun isPlace notFrozen _ => (hasLast isPlace notFrozen).view⟩
  have saved : (workspace.save last.connection last.committed).Holds place name columns :=
    holds.save fun isPlace notFrozen => (hasLast isPlace notFrozen).committed
  exact saved.congr (Workspace.database_congr (last.entries_save workspace storage) place)

end Storage

end RecordStore
