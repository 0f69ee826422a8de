import RecordStore.Proofs.CommandLine.Put
import RecordStore.Proofs.Record.Reader
import RecordStore.Proofs.Storage.Invariant

/-!
# Properties of databases that runs keep

A run of the program creates tables, removes rows and stores records that it
has read.  A property that none of this takes from a database in a file holds
after every run, whatever is asked for and whether it succeeds.

Main statements: `CommandLine.hasAt_run` and `CommandLine.atRest_run`.
-/

namespace RecordStore

/-- The database at a place has a property. -/
def Workspace.HasAt
    (workspace : Workspace)
    (place : Path.Place)
    (kept : Database → Prop) :
    Prop :=
  ∃ database, workspace.database place = .ok database ∧ kept database

theorem Workspace.HasAt.congr
    {workspace other : Workspace}
    {place : Path.Place}
    {kept : Database → Prop}
    (has : workspace.HasAt place kept)
    (same : other.database place = workspace.database place) :
    other.HasAt place kept := by
  rcases has with ⟨database, holds, isKept⟩
  exact ⟨database, same.trans holds, isKept⟩

theorem Workspace.hasAt_of_any
    {workspace : Workspace}
    {place : Path.Place}
    {check : Database → Bool}
    (succeeds : (workspace.database place).toOption.any check = true) :
    workspace.HasAt place fun database => check database = true := by
  rw [HasAt]
  cases holds : workspace.database place with
  | error fault =>
      rw [holds] at succeeds
      contradiction
  | ok database =>
      rw [holds] at succeeds
      exact ⟨database, rfl, succeeds⟩

/-- Statements take a property from no database, if the records that they store are finite. -/
structure Database.IsKept (kept : Database → Prop) : Prop where
  create :
    ∀ {database changed : Database} {name : String} {columns : List String},
      kept database → database.table? name = none →
        database.createTable name columns = .ok changed → kept changed
  delete :
    ∀ {database changed : Database} {name : String} {condition : Option (Sql.Condition Value)}
      {number : Nat},
      kept database → database.delete name condition = .ok (number, changed) → kept changed
  store :
    ∀ {database changed : Database} {name : String} {record : Record},
      kept database → record.IsFinite → database.Stores name record changed → kept changed

/-! ## Operations of storages -/

namespace Storage.Has

variable
    {kept : Database → Prop}
    (isKept : Database.IsKept kept)
    {storage : Storage}
    (has : storage.Has kept)

include isKept has

theorem put
    {record : Record}
    (isFinite : record.IsFinite) :
    (storage.put record).2.Has kept := by
  have puts := storage.puts_put record
  generalize storage.put record = result at puts ⊢
  cases puts with
  | refused => exact has
  | failed _ fails => exact has.rest (rests_abandon (mayTakeLock_of_storeRecord fails))
  | stored fits stores counts =>
      have changed := isKept.store has.view isFinite (stores_of_storeRecord fits stores)
      exact has.stored changed counts

theorem putEach
    {records : List Record}
    (areFinite : ∀ record ∈ records, record.IsFinite) :
    (storage.putEach records).2.Has kept := by
  induction records generalizing storage with
  | nil => exact has
  | cons record rest induction =>
      have isPut := has.put isKept (areFinite record List.mem_cons_self)
      have areOthers := fun other member => areFinite other (List.mem_cons_of_mem record member)
      rcases puts : storage.put record with ⟨error | id, after⟩
      · rw [puts] at isPut
        rw [putEach_of_error puts]
        exact isPut
      · rw [puts] at isPut
        rw [putEach_of_ok puts]
        exact induction isPut areOthers

theorem deleteMatching (restriction : Restriction) :
    (storage.deleteMatching restriction).2.Has kept := by
  rw [Storage.deleteMatching]
  split
  · next fails => exact has.rest (rests_abandon (mayTakeLock_of_begun fails))
  · next deletes =>
      rw [view_begin] at deletes
      exact has.written (isKept.delete has.view (writing_eq_ok_iff.mp deletes).2)

theorem delete (filter : Filter) : (storage.delete filter).2.Has kept := by
  rw [Storage.delete]
  split
  · exact has
  · exact has.deleteMatching isKept _

end Storage.Has

namespace CommandLine

open Storage (WorksByStages)

/-! ## Operations of commands -/

/-- An operation leaves a property to a storage that has it. -/
def Leaves {α : Type} (operation : Storage → α × Storage) (kept : Database → Prop) : Prop :=
  ∀ storage : Storage, storage.Has kept → (operation storage).2.Has kept

theorem isFinite_of_readRecords
    {texts : List String}
    {records : List Record}
    (reads : readRecords texts = .ok records) :
    ∀ record ∈ records, record.IsFinite := by
  intro record member
  rcases Pointwise.exists_left (Pointwise.mapM_eq_ok_iff.mp reads) member with ⟨text, _, isRead⟩
  exact Record.isFinite_of_read (Outcome.mapError_eq_ok_iff.mp isRead)

section Kept

variable {kept : Database → Prop} (isKept : Database.IsKept kept)

include isKept

theorem leaves_putRecords
    {records : List Record}
    (areFinite : ∀ record ∈ records, record.IsFinite) :
    Leaves (putRecords records) kept := by
  intro storage has
  have stored : (storage.putMany records).2.Has kept := by
    rw [Storage.putMany]
    split
    · exact has
    · exact has.putEach isKept areFinite
  rw [putRecords]
  split
  · next puts =>
      rw [puts] at stored
      exact stored
  · next after puts =>
      rw [puts] at stored
      exact stored.settle after.settles_commit

theorem leaves_deleteRecords (filter : Option String) : Leaves (deleteRecords filter) kept := by
  intro storage has
  have removed : (remove filter storage).2.Has kept := by
    rw [remove.eq_def]
    split
    · exact has.deleteMatching isKept _
    · split
      · exact has
      · exact has.delete isKept _
  rw [deleteRecords]
  split
  · next removes =>
      rw [removes] at removed
      exact removed
  · next after removes =>
      rw [removes] at removed
      exact removed.settle after.settles_commit

end Kept

/-! ## Commands -/

namespace Context

variable
    {context : Context}
    {workspace opened : Workspace}
    {fields : Option String}
    {policy : Option AutoCommit}
    {storage : Storage}
    {place : Path.Place}
    {kept : Database → Prop}

theorem hasAt_of_opens
    {α : Type}
    (opens : context.openStorage workspace fields policy = (.ok storage, opened))
    {operation : Storage → Except Error α × Storage}
    (staged : WorksByStages operation)
    (leaves : Leaves operation kept)
    (onDisk : Path.isInMemory place = false)
    (isPlace : storage.connection.place = some place)
    (committed : kept storage.committed) :
    (context.withStorage workspace fields policy operation).2.HasAt place kept := by
  have holds := database_withStorage opens staged onDisk
  rw [if_pos isPlace] at holds
  have has : Session.Has ⟨storage, opened⟩ kept := .of_opens (of_openStorage opens).1 committed
  exact ⟨_, holds, (leaves _ has.current).committed⟩

/-- The storage of a command has what the database in its file had. -/
theorem committed_of_openStorage
    (isKept : Database.IsKept kept)
    (opens : context.openStorage workspace fields policy = (.ok storage, opened))
    (isPlace : storage.connection.place = some place)
    (has : workspace.HasAt place kept) :
    kept storage.committed := by
  rcases has with ⟨database, holds, isKnown⟩
  rcases Storage.provides_of_opens (of_openStorage opens).1 isPlace with ⟨known, isOld, provides⟩
  cases holds.symm.trans isOld
  cases provides with
  | same => exact isKnown
  | created isMissing creates => exact isKept.create isKnown isMissing creates

theorem hasAt_withStorage
    (isKept : Database.IsKept kept)
    {α : Type}
    {operation : Storage → Except Error α × Storage}
    (staged : WorksByStages operation)
    (leaves : Leaves operation kept)
    (onDisk : Path.isInMemory place = false)
    (has : workspace.HasAt place kept) :
    (context.withStorage workspace fields policy operation).2.HasAt place kept := by
  rcases opens : context.openStorage workspace fields policy with ⟨error | storage, opened⟩
  · rw [withStorage_of_error opens]
    exact has.congr ((failsToOpen_of_openStorage opens).database_eq onDisk)
  · by_cases isPlace : storage.connection.place = some place
    · have committed := committed_of_openStorage isKept opens isPlace has
      exact hasAt_of_opens opens staged leaves onDisk isPlace committed
    · have holds := database_withStorage opens staged onDisk
      rw [if_neg isPlace] at holds
      exact has.congr holds

end Context

/-! ## Runs -/

/-- What a run leaves behind: what was there, or what a command leaves that works by stages. -/
inductive Runs (workspace : Workspace) : Workspace → Prop where
  | unchanged : Runs workspace workspace
  | opened
      {context : Context}
      {fields : Option String}
      {policy : Option AutoCommit}
      {operation : Storage → Except Error String × Storage}
      (staged : WorksByStages operation)
      (leaves : ∀ kept, Database.IsKept kept → Leaves operation kept) :
      Runs workspace (context.withStorage workspace fields policy operation).2

theorem runs_run (arguments : List String) (input : String) (workspace : Workspace) :
    Runs workspace (run arguments input workspace).2 := by
  cases asked : Request.read arguments with
  | error stop =>
      rw [run, asked]
      exact .unchanged
  | ok request =>
      rw [run_of_read asked]
      cases discovers : Settings.discover workspace request.settings Path.here with
      | error error =>
          rw [Request.run, discovers]
          exact .unchanged
      | ok settings =>
          rw [Request.run_of_discover discovers]
          cases request.task with
          | get | count => exact .opened (worksByStages_reading _) fun _ _ _ has => has
          | put fields policy texts =>
              cases reads : readRecords (if texts.isEmpty then filledLines input else texts) with
              | error error =>
                  rw [perform_put_of_error reads]
                  exact .unchanged
              | ok records =>
                  rw [perform_put_of_ok reads]
                  exact
                    .opened (worksByStages_putRecords records) fun _ isKept =>
                      leaves_putRecords isKept (isFinite_of_readRecords reads)
          | delete filter =>
              exact
                .opened (worksByStages_deleteRecords filter) fun _ isKept =>
                  leaves_deleteRecords isKept filter
          | sql => exact .unchanged

/-- What statements keep is kept by a run. -/
theorem hasAt_run
    {kept : Database → Prop}
    (isKept : Database.IsKept kept)
    (arguments : List String)
    (input : String)
    {workspace : Workspace}
    {place : Path.Place}
    (onDisk : Path.isInMemory place = false)
    (has : workspace.HasAt place kept) :
    (run arguments input workspace).2.HasAt place kept := by
  have runs := runs_run arguments input workspace
  generalize (run arguments input workspace).2 = after at runs ⊢
  cases runs with
  | unchanged => exact has
  | opened staged leaves =>
      exact Context.hasAt_withStorage isKept staged (leaves kept isKept) onDisk has

/-- A file at rest is at rest after a run. -/
theorem atRest_run
    (arguments : List String)
    (input : String)
    {workspace : Workspace}
    {place : Path.Place}
    (atRest : workspace.IsAtRest place) :
    (run arguments input workspace).2.IsAtRest place := by
  have runs := runs_run arguments input workspace
  generalize (run arguments input workspace).2 = after at runs ⊢
  cases runs with
  | unchanged => exact atRest
  | opened staged _ => exact Context.atRest_withStorage staged atRest

end CommandLine

end RecordStore
