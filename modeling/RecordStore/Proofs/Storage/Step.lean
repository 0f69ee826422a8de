import RecordStore.Proofs.Database.Change
import RecordStore.Storage.Account

/-!
# What a stage can do to a storage

A stage may rest: it neither stores nor removes a record, but it may open a
transaction, take a lock in it, or lose it.  Otherwise it removes rows in a
transaction, or stores a record in one and counts it, which may commit, or
commits.  Every invariant of storages follows from these cases.  What a put
does, and what storing a record does within it, is said once as well.

Main statements: `Storage.of_storeRecord`, `Storage.puts_put`,
`Storage.stepsFrom_stages` and `Storage.perform_induction`.
-/

namespace RecordStore

namespace DatabaseFault

variable {α : Type} {hindrance : Option DatabaseFault} {outcome : Except DatabaseFault α}

/-- A statement succeeds if nothing hinders it and it could run. -/
theorem hinder_eq_ok_iff {result : α} :
    hinder hindrance outcome = .ok result ↔ hindrance = none ∧ outcome = .ok result := by
  rw [hinder.eq_def]
  cases hindrance with
  | none => simp
  | some fault =>
      cases outcome with
      | ok value => simp
      | error origin =>
          dsimp only
          split <;> simp

/-- A fault that shows in the run of a statement is what hinders it, if anything does. -/
theorem hindrance_of_arisesInRun
    {fault : DatabaseFault}
    (fails : hinder hindrance outcome = .error fault)
    (arises : fault.arisesInRun = true) :
    ∀ other ∈ hindrance, other = fault := by
  rw [hinder.eq_def] at fails
  intro other isHindrance
  cases isHindrance
  cases outcome with
  | ok value => exact Except.error.inj fails
  | error origin =>
      dsimp only at fails
      split at fails
      · exact Except.error.inj fails
      · next notInRun =>
          cases fails
          exact absurd arises notInRun

end DatabaseFault

namespace Storage

variable (storage : Storage)

/-! ## What no stage changes -/

/-- The storage has gone on from another one: it may have written and committed. -/
def Continues (before after : Storage) : Prop :=
  after =
    { before with
      pending := after.pending
      lastId := after.lastId
      committed := after.committed
      transaction := after.transaction }

namespace Continues

variable {before after : Storage}

theorem refl (storage : Storage) : Continues storage storage :=
  rfl

theorem trans
    {last : Storage}
    (first : Continues before after)
    (second : Continues after last) :
    Continues before last := by
  rw [Continues] at *
  rw [second, first]

theorem location_eq (continues : Continues before after) : after.location = before.location := by
  rw [continues]

theorem table_eq (continues : Continues before after) : after.table = before.table :=
  congrArg Location.table continues.location_eq

theorem schema_eq (continues : Continues before after) : after.schema = before.schema := by
  rw [continues]

theorem policy_eq (continues : Continues before after) : after.policy = before.policy := by
  rw [continues]

theorem connection_eq (continues : Continues before after) :
    after.connection = before.connection := by
  rw [continues]

theorem readHindrance_eq (continues : Continues before after) :
    after.readHindrance = before.readHindrance := by
  rw [continues]

theorem writeHindrance_eq (continues : Continues before after) :
    after.writeHindrance = before.writeHindrance := by
  rw [continues]

theorem commitHindrance_eq (continues : Continues before after) :
    after.commitHindrance = before.commitHindrance := by
  rw [continues]

theorem isCramped_eq (continues : Continues before after) : after.isCramped = before.isCramped := by
  rw [continues]

end Continues

theorem continues_begin : Continues storage storage.begin := by
  rw [begin]
  split <;> rfl

theorem continues_hold : Continues storage storage.hold := by
  rw [hold]
  split <;> rfl

theorem continues_write (database : Database) : Continues storage (storage.write database) :=
  rfl

theorem continues_take : Continues storage storage.take :=
  rfl

theorem continues_close : Continues storage storage.close :=
  rfl

theorem continues_remember (record : Record) (id : Int64) :
    Continues storage (storage.remember record id) := by
  rw [remember]
  split <;> rfl

/-! ## Transactions -/

@[simp]
theorem view_begin : storage.begin.view = storage.view := by
  rw [begin]
  split
  · next isIdle => simp [view, isIdle]
  · rfl

@[simp]
theorem view_hold : storage.hold.view = storage.view := by
  rw [hold]
  split
  · next isBegun => simp [view, isBegun]
  · rfl

@[simp]
theorem view_write (database : Database) : (storage.write database).view = database :=
  rfl

@[simp]
theorem view_take : storage.take.view = storage.view :=
  rfl

@[simp]
theorem view_remember (record : Record) (id : Int64) :
    (storage.remember record id).view = storage.view := by
  rw [remember]
  split <;> rfl

@[simp]
theorem isUncommitted_begin : storage.begin.isUncommitted = true := by
  rw [begin]
  split
  · rfl
  · next isOpen => simpa [isUncommitted] using isOpen

@[simp]
theorem isUncommitted_hold : storage.hold.isUncommitted = storage.isUncommitted := by
  rw [hold]
  split
  · next isBegun => rw [isUncommitted, isUncommitted, isBegun]; rfl
  · rfl

@[simp]
theorem pending_begin : storage.begin.pending = storage.pending := by
  rw [begin]
  split <;> rfl

@[simp]
theorem committed_begin : storage.begin.committed = storage.committed := by
  rw [begin]
  split <;> rfl

@[simp]
theorem lastId_begin : storage.begin.lastId = storage.lastId := by
  rw [begin]
  split <;> rfl

@[simp]
theorem lock?_begin : storage.begin.lock? = storage.lock? := by
  rw [begin]
  split
  · next isIdle => simp [lock?, isIdle]
  · rfl

@[simp]
theorem isWriting_begin : storage.begin.isWriting = storage.isWriting := by
  rw [isWriting, lock?_begin, isWriting]

/-- A transaction may change the database if it has written. -/
theorem isWriting_iff :
    storage.isWriting = true ↔
      ∃ working isExclusive, storage.transaction = .writing working isExclusive := by
  rw [isWriting, lock?]
  cases storage.transaction with
  | writing working isExclusive => cases isExclusive <;> simp [Lock.isWriting]
  | idle | begun | reading => simp [Lock.isWriting]

@[simp]
theorem isWriting_write (database : Database) : (storage.write database).isWriting = true :=
  (isWriting_iff _).mpr ⟨_, _, rfl⟩

@[simp]
theorem isWriting_take : storage.take.isWriting = true :=
  (isWriting_iff _).mpr ⟨_, _, rfl⟩

theorem isUncommitted_of_isWriting (isWriting : storage.isWriting = true) :
    storage.isUncommitted = true := by
  cases isTransaction : storage.transaction with
  | idle =>
      simp [Storage.isWriting, lock?, isTransaction] at isWriting
  | begun | reading | writing => simp [isUncommitted, isTransaction]

/-- It makes no difference to what is stored that a transaction is opened before. -/
theorem storeRecord_begin (record : Record) :
    storage.begin.storeRecord record = storage.storeRecord record := by
  have sameTable : storage.begin.table = storage.table := storage.continues_begin.table_eq
  have sameHindrance := storage.continues_begin.writeHindrance_eq
  simp only [storeRecord, updateRecord, insertRecord, writing, view_begin, sameTable, sameHindrance,
    lastId_begin]

/-! ## Writing -/

theorem writing_eq_ok_iff
    {storage : Storage}
    {α : Type}
    {outcome : Except DatabaseFault α}
    {result : α} :
    storage.writing outcome = .ok result ↔
      storage.writeHindrance = none ∧ outcome = .ok result :=
  Outcome.mapError_eq_ok_iff.trans DatabaseFault.hinder_eq_ok_iff

/-- Nothing hinders writing but what keeps a lock that was taken. -/
def MayTakeLock : Prop :=
  ∀ fault ∈ storage.writeHindrance, fault.aftermath = .writing

variable {storage}

theorem mayTakeLock_of_writing
    {α : Type}
    {outcome : Except DatabaseFault α}
    {error : Error}
    (fails : storage.writing outcome = .error error)
    (takesLock : error.aftermath = .writing) :
    storage.MayTakeLock := by
  rcases Outcome.mapError_eq_error_iff.mp fails with ⟨fault, hinders, rfl⟩
  have isGrave : fault.aftermath = .writing := takesLock
  have arises : fault.arisesInRun = true := by rw [DatabaseFault.arisesInRun, isGrave]
  intro other isHindrance
  rw [DatabaseFault.hindrance_of_arisesInRun hinders arises other isHindrance]
  exact isGrave

theorem mayTakeLock_of_begun
    {α : Type}
    {outcome : Except DatabaseFault α}
    {error : Error}
    (fails : storage.begin.writing outcome = .error error)
    (takesLock : error.aftermath = .writing) :
    storage.MayTakeLock := by
  have begun := mayTakeLock_of_writing fails takesLock
  rwa [MayTakeLock, storage.continues_begin.writeHindrance_eq] at begun

theorem mayTakeLock_of_free (free : storage.writeHindrance = none) : storage.MayTakeLock := by
  intro fault isHindrance
  rw [free] at isHindrance
  contradiction

/-- A record whose storing takes the lock is stored where nothing else hinders that. -/
theorem mayTakeLock_of_storeRecord
    {record : Record}
    {error : Error}
    (fails : storage.storeRecord record = .error error)
    (takesLock : error.aftermath = .writing) :
    storage.MayTakeLock := by
  rw [storeRecord] at fails
  split at fails
  · rw [updateRecord] at fails
    split at fails
    · cases fails
      contradiction
    · rcases Outcome.bind_eq_error_iff.mp fails with refused | ⟨_, runs, _⟩
      · exact mayTakeLock_of_writing refused takesLock
      · exact mayTakeLock_of_free (writing_eq_ok_iff.mp runs).1
  · rcases Outcome.bind_eq_error_iff.mp fails with refused | ⟨_, _, isDone⟩
    · exact mayTakeLock_of_writing refused takesLock
    · contradiction

/-! ## Storing records -/

/-- The fields of a record that fits the schema are identifiers. -/
theorem areIdentifiers_of_check
    {schema : Schema}
    {record : Record}
    (checked : schema.check record = .ok ()) :
    ∀ entry ∈ record.fields.entries, Identifier.check entry.1 = .ok () := by
  intro entry member
  rw [Schema.check] at checked
  split at checked
  · contradiction
  · next complete =>
      have known := List.find?_eq_none.mp complete entry.1 (List.mem_map_of_mem member)
      exact schema.areIdentifiers entry.1 (by simpa [Schema.contains] using known)

/--
A record is stored where nothing hinders that: in a new row, which the table
may drop, or in the row that it names.
-/
theorem of_storeRecord
    {record : Record}
    {id : Int64}
    {database : Database}
    (checked : storage.schema.check record = .ok ())
    (stores : storage.storeRecord record = .ok (id, database)) :
    storage.writeHindrance = none ∧
      ((record.id = none ∧
          ∃ effect,
            storage.view.insertCells storage.table
                (record.fields.entries.map fun entry => (entry.1, Cell.ofValue entry.2)) =
              .ok effect ∧ id = effect.inserted.getD storage.lastId ∧
                database = effect.database) ∨
        (record.id = some id ∧ record.fields.entries ≠ [] ∧
          ∃ effect,
            storage.view.update storage.table record.fields.entries (Sql.Condition.ofId id) =
              .ok effect ∧ effect.changed ≠ 0 ∧ database = effect.database)) := by
  have areIdentifiers := areIdentifiers_of_check checked
  have isTable : Identifier.check storage.table = .ok () := storage.isIdentifier
  rw [storeRecord] at stores
  split at stores
  · next known isKnown =>
      rw [updateRecord] at stores
      split at stores
      · contradiction
      · next hasField =>
          have hasColumn : record.fields.entries ≠ [] := by simpa using hasField
          rcases Outcome.bind_eq_ok_iff.mp stores with ⟨effect, writes, counted⟩
          rcases writing_eq_ok_iff.mp writes with ⟨free, runs⟩
          rw [Database.execute_update isTable areIdentifiers hasColumn] at runs
          rcases Outcome.bind_eq_ok_iff.mp runs with ⟨_, _, updates⟩
          split at counted
          · contradiction
          · next isThere =>
              cases counted
              exact ⟨free, .inr ⟨isKnown, hasColumn, effect, updates, isThere, rfl⟩⟩
  · next isNew =>
      rcases Outcome.bind_eq_ok_iff.mp stores with ⟨effect, writes, isResult⟩
      rcases writing_eq_ok_iff.mp writes with ⟨free, runs⟩
      rw [Database.execute_insert isTable areIdentifiers] at runs
      rcases Outcome.bind_eq_ok_iff.mp runs with ⟨_, _, inserts⟩
      cases isResult
      exact ⟨free, .inl ⟨isNew, effect, inserts, rfl, rfl⟩⟩

theorem changesRows_of_storeRecord
    {record : Record}
    {id : Int64}
    {database : Database}
    (checked : storage.schema.check record = .ok ())
    (stores : storage.storeRecord record = .ok (id, database)) :
    storage.view.ChangesRows storage.table database := by
  rcases (of_storeRecord checked stores).2 with
    ⟨_, effect, inserts, _, rfl⟩ | ⟨_, _, effect, updates, _, rfl⟩
  · exact Database.changesRows_of_insertCells inserts
  · exact Database.changesRows_of_update updates

/-! ## Commits -/

/-- What becomes of a commit. -/
inductive Settles (storage : Storage) : Except Error Unit × Storage → Prop where
  | published (free : storage.isWriting = true → storage.commitHindrance = none) :
      Settles storage (.ok (), storage.publish)
  | waiting
      {fault : DatabaseFault}
      (isWriting : storage.isWriting = true)
      (hinders : storage.commitHindrance = some fault)
      (goesOn : fault.aftermath ≠ .ended) :
      Settles storage (.error (.database fault), storage.wait)
  | lost
      {fault : DatabaseFault}
      (isWriting : storage.isWriting = true)
      (hinders : storage.commitHindrance = some fault)
      (ends : fault.aftermath = .ended) :
      Settles storage (.error (.database fault), storage.close)

theorem settles_commit (storage : Storage) : storage.Settles storage.commit := by
  rw [commit]
  split
  · next free =>
      apply Settles.published
      intro isWriting
      cases isHindrance : storage.commitHindrance with
      | none => rfl
      | some fault => simp [isHindrance, isWriting] at free
  · next fault isHindrance =>
      rcases Option.filter_eq_some_iff.mp isHindrance with ⟨hinders, isWriting⟩
      split
      · next ends => exact .lost isWriting hinders ends
      · next goesOn => exact .waiting isWriting hinders goesOn

/-- What becomes of counting a put. -/
inductive Counts (storage : Storage) : Except Error Unit × Storage → Prop where
  | counted (waits : storage.policy.fires (storage.pending + 1) = false) :
      Counts storage (.ok (), { storage with pending := storage.pending + 1 })
  | committed
      {result : Except Error Unit × Storage}
      (fires : storage.policy.fires (storage.pending + 1) = true)
      (settles : Settles { storage with pending := storage.pending + 1 } result) :
      Counts storage result

theorem counts_countPut (storage : Storage) : storage.Counts storage.countPut := by
  rw [countPut]
  dsimp only
  split
  · next fires => exact .committed fires (settles_commit _)
  · next waits => exact .counted (by simpa using waits)

/-! ## Puts -/

/-- The storage after a record has been stored in its transaction, before it is counted. -/
def entered (storage : Storage) (record : Record) (id : Int64) (database : Database) : Storage :=
  (storage.begin.write database).remember record id

theorem continues_entered
    (storage : Storage)
    (record : Record)
    (id : Int64)
    (database : Database) :
    Continues storage (storage.entered record id database) :=
  (storage.continues_begin.trans (continues_write _ _)).trans (continues_remember _ _ _)

@[simp]
theorem view_entered
    (storage : Storage)
    (record : Record)
    (id : Int64)
    (database : Database) :
    (storage.entered record id database).view = database := by
  rw [entered, view_remember, view_write]

@[simp]
theorem committed_entered
    (storage : Storage)
    (record : Record)
    (id : Int64)
    (database : Database) :
    (storage.entered record id database).committed = storage.committed := by
  rw [entered, remember]
  split <;> exact storage.committed_begin

/-- What becomes of a put. -/
inductive Puts (storage : Storage) (record : Record) : Except Error Int64 × Storage → Prop where
  | refused
      {fault : RecordFault}
      (misfits : storage.schema.check record = .error fault) :
      Puts storage record (.error (.record fault), storage)
  | failed
      {error : Error}
      (fits : storage.schema.check record = .ok ())
      (fails : storage.storeRecord record = .error error) :
      Puts storage record (.error error, storage.begin.abandon error)
  | stored
      {id : Int64}
      {database : Database}
      {counted : Except Error Unit}
      {after : Storage}
      (fits : storage.schema.check record = .ok ())
      (stores : storage.storeRecord record = .ok (id, database))
      (counts : (storage.entered record id database).countPut = (counted, after)) :
      Puts storage record (counted.map fun _ => id, after)

theorem enter_eq_of_ok
    {record : Record}
    (checked : storage.schema.check record = .ok ())
    {id : Int64}
    {database : Database}
    (stores : storage.storeRecord record = .ok (id, database)) :
    storage.enter record = (.ok id, storage.entered record id database) := by
  simp only [enter, checked, storeRecord_begin, stores, entered]

theorem enter_eq_of_error
    {record : Record}
    (checked : storage.schema.check record = .ok ())
    {error : Error}
    (refuses : storage.storeRecord record = .error error) :
    storage.enter record = (.error error, storage.begin.abandon error) := by
  simp only [enter, checked, storeRecord_begin, refuses]

theorem enter_eq_of_misfit
    {record : Record}
    {fault : RecordFault}
    (misfits : storage.schema.check record = .error fault) :
    storage.enter record = (.error (.record fault), storage) := by
  simp only [enter, misfits]

theorem puts_put (storage : Storage) (record : Record) :
    storage.Puts record (storage.put record) := by
  cases checked : storage.schema.check record with
  | error fault =>
      rw [put, enter_eq_of_misfit checked]
      exact .refused checked
  | ok accepted =>
      cases stores : storage.storeRecord record with
      | ok stored =>
          rw [put, enter_eq_of_ok checked stores]
          exact .stored checked stores rfl
      | error error =>
          rw [put, enter_eq_of_error checked stores]
          exact .failed checked stores

/-! ## Stages -/

/-- What a stage does that neither stores nor removes a record. -/
inductive Rests (before : Storage) : Storage → Prop where
  | same : Rests before before
  | held : Rests before before.hold
  | begun : Rests before before.begin
  | begunHeld : Rests before before.begin.hold
  | taken (mayTakeLock : before.MayTakeLock) : Rests before before.begin.take
  | waiting (isWriting : before.isWriting = true) : Rests before before.wait
  | lost : Rests before before.close

/-- What a stage does to the storage before it. -/
inductive Step (before : Storage) : Stage → Prop where
  | rested
      {after : Storage}
      (rests : before.Rests after) :
      Step before (before.passing after)
  | removed
      {restriction : Restriction}
      {number : Nat}
      {database : Database}
      (deletes :
        before.begin.writing
          (before.begin.view.delete before.begin.table restriction.condition) =
            .ok (number, database)) :
      Step before ⟨.passed, before.begin.write database⟩
  | stored
      {record : Record}
      {id : Int64}
      {database : Database}
      {after : Storage}
      (checked : before.schema.check record = .ok ())
      (stores : before.storeRecord record = .ok (id, database))
      (counts : (before.entered record id database).countPut = (.ok (), after)) :
      Step before ⟨.stored, after⟩
  | unsettled
      {record : Record}
      {id : Int64}
      {database : Database}
      {error : Error}
      {after : Storage}
      (checked : before.schema.check record = .ok ())
      (stores : before.storeRecord record = .ok (id, database))
      (counts : (before.entered record id database).countPut = (.error error, after)) :
      Step before ⟨.unsettled, after⟩
  | committed (free : before.isWriting = true → before.commitHindrance = none) :
      Step before ⟨.committed, before.publish⟩

/-- Stages that follow each other, from a storage on. -/
def StepsFrom (storage : Storage) : List Stage → Prop
  | [] => True
  | stage :: rest => Step storage stage ∧ stage.storage.StepsFrom rest

theorem passing_self (storage : Storage) : storage.passing storage = ⟨.passed, storage⟩ := by
  rw [passing]
  cases storage.isUncommitted <;> rfl

theorem step_same (storage : Storage) : Step storage ⟨.passed, storage⟩ := by
  rw [← passing_self]
  exact .rested .same

theorem rests_abandon
    {error : Error}
    (takesLock : error.aftermath = .writing → storage.MayTakeLock) :
    storage.Rests (storage.begin.abandon error) := by
  rw [abandon]
  split
  · exact .begun
  · exact .begunHeld
  · next isWriting => exact .taken (takesLock isWriting)
  · have closed : storage.begin.close = storage.close := by
      rw [begin]
      split <;> rfl
    rw [closed]
    exact .lost

theorem step_putStage (record : Record) : Step storage (storage.putStage record) := by
  rw [putStage]
  cases checked : storage.schema.check record with
  | error fault =>
      rw [enter_eq_of_misfit checked]
      exact .rested .same
  | ok accepted =>
      cases stores : storage.storeRecord record with
      | error error =>
          rw [enter_eq_of_error checked stores]
          exact .rested (rests_abandon (mayTakeLock_of_storeRecord stores))
      | ok stored =>
          rw [enter_eq_of_ok checked stores]
          rcases counts : (storage.entered record stored.1 stored.2).countPut with
            ⟨error | done, after⟩
          · simp only [counts]
            exact .unsettled checked stores counts
          · simp only [counts]
            exact .stored checked stores counts

theorem stepsFrom_putStages (storage : Storage) (records : List Record) :
    storage.StepsFrom (storage.putStages records) := by
  induction records generalizing storage with
  | nil => exact ⟨storage.step_same, trivial⟩
  | cons record rest induction =>
      rw [putStages]
      split
      · exact ⟨step_putStage record, induction _⟩
      · exact ⟨step_putStage record, trivial⟩

theorem step_deleteMatching (restriction : Restriction) :
    Step storage (storage.passing (storage.deleteMatching restriction).2) := by
  rw [deleteMatching]
  cases deletes :
      storage.begin.writing
        (storage.begin.view.delete storage.begin.table restriction.condition) with
  | error error => exact .rested (rests_abandon (mayTakeLock_of_begun deletes))
  | ok entry =>
      have isOpen : (storage.begin.write entry.2).isUncommitted = true :=
        isUncommitted_of_isWriting _ (isWriting_write _ _)
      simp only [passing, isOpen, Bool.not_true, Bool.and_false, Bool.false_eq_true, if_false]
      exact .removed deletes

theorem step_delete (filter : Filter) :
    Step storage (storage.passing (storage.delete filter).2) := by
  rw [delete]
  cases removal filter with
  | error error => exact .rested .same
  | ok restriction => exact step_deleteMatching restriction

theorem step_deleteRecord (record : Record) :
    Step storage (storage.passing (storage.deleteRecord record).2) := by
  rw [deleteRecord]
  cases record.toFilter with
  | error fault => exact .rested .same
  | ok filter => exact step_delete filter

theorem rests_afterRead {α : Type} (result : Except Error α) :
    storage.Rests (storage.afterRead result) := by
  rw [afterRead.eq_def]
  split
  · exact .held
  · split
    · exact .lost
    · exact .held
    · exact .same

/-- The stages of an operation follow each other. -/
theorem stepsFrom_stages (storage : Storage) (operation : Operation) :
    storage.StepsFrom (storage.stages operation) := by
  cases operation with
  | get | select | getById | count => exact ⟨.rested (rests_afterRead _), trivial⟩
  | put record => exact ⟨step_putStage record, trivial⟩
  | putMany records =>
      rw [stages.eq_def]
      dsimp only
      split
      · exact ⟨storage.step_same, trivial⟩
      · exact storage.stepsFrom_putStages records
  | delete filter => exact ⟨step_delete filter, trivial⟩
  | deleteRecord record => exact ⟨step_deleteRecord record, trivial⟩
  | deleteAll => exact ⟨step_deleteMatching .unrestricted, trivial⟩
  | commit =>
      have settles := storage.settles_commit
      rw [stages.eq_def]
      generalize storage.commit = result at settles
      cases settles with
      | published free => exact ⟨.committed free, trivial⟩
      | waiting isWriting => exact ⟨.rested (.waiting isWriting), trivial⟩
      | lost => exact ⟨.rested .lost, trivial⟩

theorem stages_ne_nil (storage : Storage) (operation : Operation) :
    storage.stages operation ≠ [] := by
  cases operation with
  | putMany records =>
      rw [stages.eq_def]
      dsimp only
      split
      · simp
      · cases records with
        | nil => simp [putStages]
        | cons record rest =>
            rw [putStages]
            split <;> simp
  | commit =>
      rw [stages.eq_def]
      dsimp only
      split <;> simp
  | _ => simp [stages]

/-! ## The end of the stages -/

/-- The storage after stages. -/
def arrive (storage : Storage) (stages : List Stage) : Storage :=
  stages.foldl (fun _ stage => stage.storage) storage

/-- A put and its stage leave the same storage, and a record is stored if the put succeeds. -/
theorem putStage_eq (storage : Storage) (record : Record) :
    (storage.putStage record).storage = (storage.put record).2 ∧
      ((storage.putStage record).event = .stored ↔
        ∃ id, (storage.put record).1 = .ok id) := by
  rw [putStage, put]
  rcases storage.enter record with ⟨error | id, entered⟩
  · refine ⟨rfl, ?_⟩
    dsimp only
    rw [passing]
    split <;> simp
  · dsimp only
    rcases entered.countPut with ⟨error | done, after⟩
    · exact ⟨rfl, by simp [Except.map]⟩
    · exact ⟨rfl, by simp [Except.map]⟩

theorem arrive_putStages (storage : Storage) (records : List Record) :
    storage.arrive (storage.putStages records) = (storage.putEach records).2 := by
  induction records generalizing storage with
  | nil => rfl
  | cons record rest induction =>
      rcases storage.putStage_eq record with ⟨sameStorage, isStored⟩
      rw [putStages, putEach]
      rcases result : storage.put record with ⟨error | id, after⟩
      · rw [result] at sameStorage isStored
        have notStored : (storage.putStage record).event ≠ .stored := by simp [isStored]
        rw [if_neg notStored]
        exact sameStorage
      · rw [result] at sameStorage isStored
        have stored : (storage.putStage record).event = .stored := isStored.mpr ⟨id, rfl⟩
        rw [if_pos stored, sameStorage]
        show (storage.putStage record).storage.arrive (after.putStages rest) = _
        rw [sameStorage, induction]
        dsimp only
        rcases after.putEach rest with ⟨error | ids, last⟩ <;> rfl

/-- The stages of an operation lead to where the operation does. -/
theorem arrive_stages (storage : Storage) (operation : Operation) :
    storage.arrive (storage.stages operation) = (storage.perform operation).2 := by
  cases operation with
  | get | select | getById | count | delete | deleteRecord | deleteAll => rfl
  | put record => exact (storage.putStage_eq record).1
  | putMany records =>
      rw [stages.eq_def]
      show _ = (storage.putMany records).2
      rw [putMany]
      dsimp only
      cases checkAll storage.schema records with
      | error fault => rfl
      | ok accepted => exact storage.arrive_putStages records
  | commit =>
      show _ = storage.commit.2
      rw [stages.eq_def]
      rcases storage.commit with ⟨error | done, after⟩ <;> rfl

section Kept

variable
    {motive : Storage → Prop}
    (kept : ∀ before stage, Step before stage → motive before → motive stage.storage)

include kept

theorem arrive_induction
    {storage : Storage}
    {stages : List Stage}
    (steps : storage.StepsFrom stages)
    (holds : motive storage) :
    motive (storage.arrive stages) := by
  induction stages generalizing storage with
  | nil => exact holds
  | cons stage rest induction => exact induction steps.2 (kept storage stage steps.1 holds)

/-- What every stage keeps is kept by an operation. -/
theorem perform_induction
    {storage : Storage}
    (holds : motive storage)
    (operation : Operation) :
    motive (storage.perform operation).2 := by
  rw [← arrive_stages]
  exact arrive_induction kept (storage.stepsFrom_stages operation) holds

/-- What every stage keeps is kept while records are stored. -/
theorem putEach_induction
    {storage : Storage}
    (holds : motive storage)
    (records : List Record) :
    motive (storage.putEach records).2 := by
  rw [← arrive_putStages]
  exact arrive_induction kept (storage.stepsFrom_putStages records) holds

end Kept

/-! ## Resting, committing and counting -/

theorem Rests.continues
    {before after : Storage}
    (rests : before.Rests after) :
    Continues before after := by
  cases rests with
  | same => exact .refl before
  | held => exact before.continues_hold
  | begun => exact before.continues_begin
  | begunHeld => exact before.continues_begin.trans before.begin.continues_hold
  | taken => exact before.continues_begin.trans before.begin.continues_take
  | waiting | lost => rfl

theorem Settles.continues
    {before : Storage}
    {result : Except Error Unit × Storage}
    (settles : before.Settles result) :
    Continues before result.2 := by
  cases settles <;> rfl

theorem Counts.continues
    {before : Storage}
    {result : Except Error Unit × Storage}
    (counts : before.Counts result) :
    Continues before result.2 := by
  cases counts with
  | counted => rfl
  | committed _ settles =>
      have counted : Continues before { before with pending := before.pending + 1 } := rfl
      exact counted.trans settles.continues

theorem Step.continues
    {before : Storage}
    {stage : Stage}
    (step : Step before stage) :
    Continues before stage.storage := by
  cases step with
  | rested rests => exact rests.continues
  | removed => exact before.continues_begin.trans (continues_write _ _)
  | @stored record id database after _ _ counts
  | @unsettled record id database error after _ _ counts =>
      have counted := (counts_countPut (before.entered record id database)).continues
      rw [counts] at counted
      exact (before.continues_entered record id database).trans counted
  | committed => rfl

theorem continues_perform (storage : Storage) (operation : Operation) :
    Continues storage (storage.perform operation).2 :=
  perform_induction (fun _ _ step continues => continues.trans step.continues) (.refl storage)
    operation

theorem continues_putEach (storage : Storage) (records : List Record) :
    Continues storage (storage.putEach records).2 :=
  putEach_induction (fun _ _ step continues => continues.trans step.continues) (.refl storage)
    records

end Storage

end RecordStore
