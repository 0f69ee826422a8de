import RecordStore.Proofs.Storage.Visibility
import RecordStore.Storage.Reach

/-!
# Operations that fail

An operation that stores at most one record can fail before it has begun a
transaction, after that, because an update has met no row, or because a record
that was stored could not be committed.  The files stay as they are in all of
these cases, and so does what a session sees, unless a failure has ended its
transaction or a record that was stored waits for its commit.  What others can
read depends on two things besides the files: what a connection holds of its
database, and which table it makes known to be changing.

Main statement: `Session.failure_changes_nothing`.
-/

namespace RecordStore

namespace Storage

/-! ## What a failure leaves behind -/

/-- What an operation that fails does to the storage before it. -/
inductive Fails (before : Storage) (operation : Operation) (error : Error) : Storage → Prop where
  | same
      (refused : ∀ database, ¬ before.Stores operation database)
      (goesOn : error.aftermath ≠ .ended) :
      Fails before operation error before
  | read
      (α : Type)
      (refused : ∀ database, ¬ before.Stores operation database) :
      Fails before operation error (before.afterRead (.error error : Except Error α))
  | abandoned (refused : ∀ database, ¬ before.Stores operation database) :
      Fails before operation error (before.begin.abandon error)
  | uncommitted
      {after : Storage}
      (isCommit : operation = .commit)
      (settles : before.Settles (.error error, after)) :
      Fails before operation error after
  | unsettled
      {record : Record}
      {id : Int64}
      {database : Database}
      {after : Storage}
      (isPut : operation = .put record)
      (checked : before.schema.check record = .ok ())
      (stores : before.storeRecord record = .ok (id, database))
      (counts : (before.entered record id database).countPut = (.error error, after)) :
      Fails before operation error after

variable {storage : Storage} {operation : Operation} {error : Error}

/-- Only a put stores a record. -/
theorem not_stores_of_ne_put
    (notPut : ∀ record, operation ≠ .put record)
    (database : Database) :
    ¬ storage.Stores operation database := by
  rintro ⟨record, _, isPut, _⟩
  exact notPut record isPut

theorem fails_put
    {record : Record}
    (fails : (storage.put record).1 = .error error) :
    storage.Fails (.put record) error (storage.put record).2 := by
  have puts := storage.puts_put record
  generalize storage.put record = result at puts fails ⊢
  cases puts with
  | refused misfits =>
      cases fails
      refine .same ?_ nofun
      rintro database ⟨_, _, isPut, checked, _⟩
      cases isPut
      cases misfits.symm.trans checked
  | failed fits refuses =>
      cases fails
      apply Fails.abandoned
      rintro database ⟨_, _, isPut, _, stores⟩
      cases isPut
      cases refuses.symm.trans stores
  | stored fits stores counts =>
      rw [Outcome.map_eq_error_iff] at fails
      subst fails
      exact .unsettled rfl fits stores counts

theorem fails_deleteMatching
    (notPut : ∀ record, operation ≠ .put record)
    {restriction : Restriction}
    (fails : (storage.deleteMatching restriction).1 = .error error) :
    storage.Fails operation error (storage.deleteMatching restriction).2 := by
  rw [deleteMatching] at fails ⊢
  split at fails
  · next removes =>
      cases fails
      exact .abandoned (not_stores_of_ne_put notPut)
  · contradiction

/-- What is refused for removal leaves a transaction alone. -/
theorem aftermath_of_removal
    {filter : Filter}
    (refuses : removal filter = .error error) :
    error.aftermath = .nothing := by
  rcases Outcome.bind_eq_error_iff.mp refuses with unread | ⟨criteria, _, notMade⟩
  · rcases Outcome.mapError_eq_error_iff.mp unread with ⟨fault, _, rfl⟩
    rfl
  · split at notMade
    · cases notMade
      rfl
    · rcases Outcome.mapError_eq_error_iff.mp notMade with ⟨fault, _, rfl⟩
      rfl

theorem fails_delete
    (notPut : ∀ record, operation ≠ .put record)
    {filter : Filter}
    (fails : (storage.delete filter).1 = .error error) :
    storage.Fails operation error (storage.delete filter).2 := by
  rw [delete] at fails ⊢
  split at fails
  · next refuses =>
      cases fails
      exact .same (not_stores_of_ne_put notPut) (by simp [aftermath_of_removal refuses])
  · exact fails_deleteMatching notPut fails

theorem pending_afterRead {α : Type} (storage : Storage) (result : Except Error α) :
    (storage.afterRead result).pending = storage.pending :=
  (rests_afterRead result).pending_eq

theorem view_afterRead
    {α : Type}
    (storage : Storage)
    (goesOn : error.aftermath ≠ .ended) :
    (storage.afterRead (.error error : Except Error α)).view = storage.view := by
  rw [afterRead]
  split
  · next ends => exact absurd ends goesOn
  · exact storage.view_hold
  · rfl

theorem pending_abandon : (storage.abandon error).pending = storage.pending := by
  rw [abandon]
  split
  · rfl
  · exact storage.pending_hold
  · rfl
  · rfl

theorem committed_abandon : (storage.abandon error).committed = storage.committed := by
  rw [abandon]
  split
  · rfl
  · exact storage.committed_hold
  · rfl
  · rfl

theorem lock?_of_idle (isIdle : storage.isUncommitted = false) : storage.lock? = none := by
  simp only [isUncommitted, bne_eq_false_iff_eq] at isIdle
  rw [lock?, isIdle]

theorem lock?_hold_eq_or (storage : Storage) :
    storage.hold.lock? = storage.lock? ∨ storage.hold.lock? = some .reading := by
  rw [hold]
  split
  · exact .inr rfl
  · exact .inl rfl

/-- Whoever takes the lock for writing keeps one that is exclusive. -/
theorem lock?_take_eq_or (storage : Storage) :
    storage.take.lock? = storage.lock? ∨
      (storage.take.lock? = some .writing ∧ storage.lock? ≠ some .exclusive) := by
  have isLock :
      storage.take.lock? =
        some (if storage.lock? == some .exclusive then .exclusive else .writing) :=
    rfl
  by_cases isExclusive : storage.lock? = some .exclusive
  · exact .inl (by simp [isLock, isExclusive])
  · exact .inr ⟨by simp [isLock, isExclusive], isExclusive⟩

namespace Fails

variable {before after : Storage} (fails : before.Fails operation error after)

include fails

theorem continues : Continues before after := by
  cases fails with
  | same => exact .refl before
  | read => exact (rests_afterRead _).continues
  | abandoned =>
      refine before.continues_begin.trans ?_
      rw [abandon]
      split
      · exact .refl _
      · exact continues_hold _
      · exact continues_take _
      · exact continues_close _
  | uncommitted _ settles => exact settles.continues
  | @unsettled record id database _ _ _ _ counts =>
      have counted := (counts_countPut (before.entered record id database)).continues
      rw [counts] at counted
      exact (before.continues_entered record id database).trans counted

theorem committed_eq : after.committed = before.committed := by
  cases fails with
  | same => rfl
  | read => exact (rests_afterRead _).committed_eq
  | abandoned => rw [committed_abandon, committed_begin]
  | uncommitted _ settles =>
      cases settles with
      | waiting | lost => rfl
  | unsettled _ _ _ counts => exact (unsettled_of_countPut counts).2.2.2

/-- Where no record is stored, a failure that does not end the transaction changes no row. -/
theorem view_eq
    (goesOn : error.aftermath ≠ .ended)
    (refused : ∀ database, ¬ before.Stores operation database) :
    after.view = before.view := by
  cases fails with
  | same => rfl
  | read => exact view_afterRead before goesOn
  | abandoned => rw [view_abandon _ goesOn, view_begin]
  | uncommitted _ settles =>
      cases settles with
      | waiting => rfl
      | lost _ _ ends => exact absurd ends goesOn
  | unsettled isPut checked stores => exact absurd ⟨_, _, isPut, checked, stores⟩ (refused _)

theorem pending_eq (refused : ∀ database, ¬ before.Stores operation database) :
    after.pending = before.pending := by
  cases fails with
  | same => rfl
  | read => exact pending_afterRead before _
  | abandoned => rw [pending_abandon, pending_begin]
  | uncommitted _ settles =>
      cases settles with
      | waiting | lost => rfl
  | unsettled isPut checked stores => exact absurd ⟨_, _, isPut, checked, stores⟩ (refused _)

/--
After a failure the lock is as before, or given up, or it is for reading, or it
was taken for writing, or it waits for others to finish.
-/
theorem lock?_eq_or :
    after.lock? = before.lock? ∨ after.lock? = none ∨ after.lock? = some .reading ∨
      (after.lock? = some .writing ∧ before.lock? ≠ some .exclusive ∧
        error.aftermath = .writing) ∨
        (after.lock? = some .exclusive ∧ before.ComesToCommit operation) := by
  cases fails with
  | same => exact .inl rfl
  | read =>
      rw [afterRead]
      split
      · exact .inr (.inl rfl)
      · rcases before.lock?_hold_eq_or with same | reads
        · exact .inl same
        · exact .inr (.inr (.inl reads))
      · exact .inl rfl
  | abandoned =>
      rw [abandon, ← before.lock?_begin]
      split
      · exact .inl rfl
      · rcases before.begin.lock?_hold_eq_or with same | reads
        · exact .inl same
        · exact .inr (.inr (.inl reads))
      · next takesLock =>
          rcases before.begin.lock?_take_eq_or with same | ⟨writes, notExclusive⟩
          · exact .inl same
          · exact .inr (.inr (.inr (.inl ⟨writes, notExclusive, takesLock⟩)))
      · exact .inr (.inl rfl)
  | uncommitted isCommit settles =>
      cases settles with
      | waiting => exact .inr (.inr (.inr (.inr ⟨rfl, .inl isCommit⟩)))
      | lost => exact .inr (.inl rfl)
  | unsettled isPut checked stores counts =>
      rcases waits_or_lost_of_countPut counts with ⟨_, _, waits⟩ | ⟨_, _, isIdle⟩
      · exact .inr (.inr (.inr (.inr ⟨waits, .inr ⟨_, _, _, isPut, checked, stores⟩⟩)))
      · exact .inr (.inl (lock?_of_idle isIdle))

theorem writes (isWriting : after.isWriting = true) :
    before.isWriting = true ∨ error.aftermath = .writing ∨ before.ComesToCommit operation := by
  rw [Storage.isWriting] at isWriting ⊢
  rcases fails.lock?_eq_or with same | none | reads | ⟨_, _, takesLock⟩ | ⟨_, comes⟩
  · exact .inl (same ▸ isWriting)
  · simp [none] at isWriting
  · simp [reads, Lock.isWriting] at isWriting
  · exact .inr (.inl takesLock)
  · exact .inr (.inr comes)

end Fails

/-- What a storage sees depends on the databases of the workspace alone. -/
theorem view_refresh_of_database
    (storage : Storage)
    {before after : Workspace}
    (same : ∀ place, after.database place = before.database place) :
    (storage.refresh after).view = (storage.refresh before).view := by
  have sameDatabase : after.database = before.database := funext same
  rw [refresh, refresh, sameDatabase]
  rfl

end Storage

namespace Session

variable {session : Session}

/-! ## What others know of a session -/

/--
The session is settled, and whoever shares its database knows the session and
the table that it is changing.
-/
structure Announced (session : Session) : Prop where
  settled : session.Settled
  isCounted :
    ∀ place, session.storage.connection.place = some place →
      session.storage.connection.isShared = true →
        (session.workspace.share? place).isSome = true
  isKnown :
    ∀ place, session.storage.connection.place = some place →
      session.storage.connection.isShared = true → session.storage.isWriting = true →
        session.workspace.changing? place = some session.storage.table

namespace Announced

theorem stage
    (announced : session.Announced)
    {storage : Storage}
    (leads : session.Leads storage) :
    Announced ⟨storage, storage.save session.workspace session.storage⟩ := by
  have sameConnection := leads.connection_eq
  have sameTable : storage.table = session.storage.table := leads.continues.table_eq
  have sameShares := session.workspace.shares_save storage.connection storage.committed
  -- Whatever is made known, it is made known with the share that was there.
  have isCounted
      {place : Path.Place}
      (isPlace : storage.connection.place = some place)
      (isShared : storage.connection.isShared = true) :
      ((session.workspace.save storage.connection storage.committed).share? place).isSome =
        true := by
    rw [Workspace.share?_congr sameShares]
    rw [sameConnection] at isPlace isShared
    exact announced.isCounted place isPlace isShared
  refine ⟨leads.settled announced.settled, ?_, ?_⟩
  · intro place isPlace isShared
    rcases Option.isSome_iff_exists.mp (isCounted isPlace isShared) with ⟨share, found⟩
    show ((storage.save session.workspace session.storage).share? place).isSome = true
    rw [Storage.save, Workspace.share?_congr Workspace.shares_exchange]
    split
    · rw [Workspace.share?_setChanging isPlace isShared found]
      rfl
    · split
      · rw [Workspace.share?_setChanging isPlace isShared found]
        rfl
      · exact isCounted isPlace isShared
  · intro place isPlace isShared isWriting
    rcases Option.isSome_iff_exists.mp (isCounted isPlace isShared) with ⟨share, found⟩
    show (storage.save session.workspace session.storage).changing? place = _
    rw [Storage.save, if_pos isWriting, Workspace.changing?,
      Workspace.share?_congr Workspace.shares_exchange,
      Workspace.share?_setChanging isPlace isShared found, sameTable]
    rfl

theorem changed
    (announced : session.Announced)
    {workspace : Workspace}
    (spares : session.workspace.Spares workspace session.storage.connection) :
    Announced ⟨session.storage, workspace⟩ := by
  refine ⟨announced.settled.changed ?_, ?_, ?_⟩
  · intro place isPlace
    exact (spares.leavesAlone place isPlace).database_eq
  · intro place isPlace isShared
    exact spares.staysKnown place isPlace isShared (announced.isCounted place isPlace isShared)
  · intro place isPlace isShared isWriting
    exact
      (spares.leavesAlone place isPlace).changing_eq.trans
        (announced.isKnown place isPlace isShared isWriting)

end Announced

/-- The session is announced, and calm if its database is not its own. -/
structure Watched (session : Session) : Prop where
  announced : session.Announced
  calm : ∀ place, session.storage.connection.place = some place → session.Calm place

namespace Watched

theorem stage
    (watched : session.Watched)
    {storage : Storage}
    (leads : session.Leads storage) :
    Watched ⟨storage, storage.save session.workspace session.storage⟩ := by
  refine ⟨watched.announced.stage leads, fun place isPlace => ?_⟩
  have isSame : session.storage.connection.place = some place := leads.connection_eq ▸ isPlace
  exact (watched.calm place isSame).stage leads

theorem perform
    (watched : session.Watched)
    (operation : Storage.Operation) :
    (session.perform operation).2.Watched :=
  watched.stage (watched.announced.settled.leads_perform operation)

theorem changed
    (watched : session.Watched)
    {workspace : Workspace}
    (spares : session.workspace.Spares workspace session.storage.connection) :
    Watched ⟨session.storage, workspace⟩ :=
  ⟨watched.announced.changed spares,
    fun place isPlace => (watched.calm place isPlace).changed (spares.leavesAlone place isPlace)⟩

/-- Nothing hinders the session itself from reading. -/
theorem readHindrance_eq (watched : session.Watched) : session.current.readHindrance = none := by
  show
    session.workspace.readHindrance? session.storage.connection session.storage.lock?
      session.storage.table = none
  cases isPlace : session.storage.connection.place with
  | none => exact Workspace.readHindrance?_of_noPlace isPlace _ _
  | some place =>
      have calm := watched.calm place isPlace
      refine Workspace.readHindrance?_eq_none_iff.mpr ⟨?_, ?_, ?_⟩
      · cases isLock : session.storage.lock? with
        | some lock => rfl
        | none =>
            have notWriting : session.storage.isWriting = false := by
              rw [Storage.isWriting, isLock]
              rfl
            exact
              calm.notBusyForReading (fun _ => notWriting) (by simp [isLock]) isPlace none
      · cases notFrozen : session.storage.connection.isFrozen with
        | true => simp [Workspace.isUnreadable, notFrozen]
        | false => simp [Workspace.isUnreadable, isPlace, calm.isReadable notFrozen]
      · intro changed isChanged
        rw [Workspace.changedElsewhere?, isPlace] at isChanged
        split at isChanged
        · next shares =>
            rw [Bool.and_eq_true, Bool.not_eq_true'] at shares
            have isWriting := (calm.alone (Option.ne_none_iff_exists'.mpr ⟨_, isChanged⟩)).2
            cases isWriting.symm.trans shares.2
        · contradiction

/-- Another connection can read unless the session keeps it from that. -/
theorem isReadable
    (watched : session.Watched)
    (notFrozen : session.storage.connection.isFrozen = false)
    (notExclusive : session.storage.lock? ≠ some .exclusive)
    {second : Storage}
    (samePlace : second.connection.place = session.storage.connection.place)
    (idle :
      second.connection.place.any Path.isMemoryFile = true → session.storage.isWriting = false)
    (apart : session.storage.isWriting = true → ¬ second.SharesWith session.storage) :
    (second.refresh session.workspace).readHindrance = none := by
  show
    session.workspace.readHindrance? second.connection second.lock? second.table = none
  cases isPlace : second.connection.place with
  | none => exact Workspace.readHindrance?_of_noPlace isPlace _ _
  | some place =>
      have isOwnPlace := samePlace.symm.trans isPlace
      have calm := watched.calm place isOwnPlace
      rw [isPlace, Option.any_some] at idle
      refine
        Workspace.readHindrance?_eq_none_iff.mpr
          ⟨calm.notBusyForReading idle notExclusive isPlace _, ?_, ?_⟩
      · simp [Workspace.isUnreadable, isPlace, calm.isReadable notFrozen]
      · intro changed isChanged
        rw [Workspace.changedElsewhere?, isPlace] at isChanged
        split at isChanged
        · next shares =>
            rw [Bool.and_eq_true] at shares
            have isChanging : session.workspace.changing? place = some changed := isChanged
            obtain ⟨isShared, isWriting⟩ :=
              calm.alone (Option.ne_none_iff_exists'.mpr ⟨_, isChanging⟩)
            have isKnown := watched.announced.isKnown place isOwnPlace isShared isWriting
            cases isChanging.symm.trans isKnown
            by_contra sameTable
            rw [Bool.not_eq_false] at sameTable
            exact apart isWriting ⟨samePlace, sameTable, shares.1, isShared⟩
        · contradiction

end Watched

/-! ## The workspace after a failure -/

/-- The session with a storage that an operation has left behind. -/
abbrev left (session : Session) (storage : Storage) : Session :=
  ⟨storage, storage.save session.workspace session.storage⟩

section Failure

variable {operation : Storage.Operation} {error : Error} {after : Storage}

end Failure

/-- A name for a row that is not there. -/
def stranger : Record :=
  ⟨some 9, (person "Bob").fields⟩

/-- The identity that an outcome says is missing. -/
def missingId? {α : Type} (outcome : Except Error α) : Option Int64 :=
  match outcome with
  | .error (.recordNotFound id) => some id
  | _ => none

theorem eq_error_of_missingId?
    {α : Type}
    {outcome : Except Error α}
    {id : Int64}
    (misses : missingId? outcome = some id) :
    outcome = .error (.recordNotFound id) := by
  unfold missingId? at misses
  split at misses
  · cases misses
    rfl
  · contradiction

/-- The table of names, opened a second time and read in a transaction that stays open. -/
def reading : Session :=
  ((begin? (Storage.openExisting eager.workspace "sqlite://x.db:t" .manual)).get
    (by decide +kernel)).after [.put ⟨some 9, .empty⟩, .get .all]

end Session

end RecordStore
