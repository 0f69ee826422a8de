import RecordStore.Proofs.Storage.Account
import RecordStore.Storage.Visibility

/-!
# What others see

The file of a session holds what the session has published, and nothing that
the session does keeps others from reading it.  Both hold from the opening
on, through every stage of every operation, and while others leave the file
alone.

Main statement: `Session.only_published_is_seen`.
-/

namespace RecordStore

namespace Storage

/-! ## Tables stay -/

/-- No stage creates tables or removes them. -/
theorem Step.isSome_table?
    {before : Storage}
    {stage : Stage}
    (step : Step before stage)
    {name : String}
    (seen : (before.view.table? name).isSome = true)
    (saved : (before.committed.table? name).isSome = true) :
    (stage.storage.view.table? name).isSome = true := by
  have counted {record : Record} {id : Int64} {database : Database}
      {result : Except Error Unit} {after : Storage}
      (checked : before.schema.check record = .ok ())
      (stores : before.storeRecord record = .ok (id, database))
      (counts : (before.entered record id database).countPut = (result, after)) :
      (after.view.table? name).isSome = true := by
    have left := (counts_countPut (before.entered record id database)).view_eq_or
    rw [counts, view_entered, committed_entered] at left
    rcases left with sameView | lost
    · rw [sameView]
      exact ((changesRows_of_storeRecord checked stores).isSome_table? name).trans seen
    · rw [lost]
      exact saved
  cases step with
  | rested rests =>
      rcases rests.view_eq_or with same | ⟨_, lost⟩
      · exact (congrArg (fun view => (Database.table? view name).isSome) same).trans seen
      · exact (congrArg (fun view => (Database.table? view name).isSome) lost).trans saved
  | removed deletes =>
      rw [view_begin] at deletes
      have changes := Database.changesRows_of_delete (writing_eq_ok_iff.mp deletes).2
      exact (changes.isSome_table? name).trans seen
  | stored checked stores counts | unsettled checked stores counts =>
      exact counted checked stores counts
  | committed => exact seen

/-! ## What is published -/

/-- What the storage has committed is published, and the tables of a database are in it. -/
structure Published (storage : Storage) (start : Database) (account : Account) : Prop where
  accounted : storage.Accounted account
  committed_eq : storage.committed = account.published
  seen :
    ∀ name, (start.table? name).isSome = true → (storage.view.table? name).isSome = true
  kept :
    ∀ name, (start.table? name).isSome = true → (account.published.table? name).isSome = true

theorem Published.next
    {start : Database}
    {before : Storage}
    {account : Account}
    (published : before.Published start account)
    {stage : Stage}
    (step : Step before stage) :
    stage.storage.Published start (account.next stage) := by
  have seen (name : String) (isThere : (start.table? name).isSome = true) :
      (stage.storage.view.table? name).isSome = true := by
    apply step.isSome_table? (published.seen name isThere)
    rw [published.committed_eq]
    exact published.kept name isThere
  refine ⟨published.accounted.next step, ?_, seen, ?_⟩
  · cases step with
    | rested rests =>
        have kept := rests.committed_eq.trans published.committed_eq
        rw [passing]
        split <;> exact kept
    | removed => exact before.committed_begin.trans published.committed_eq
    | committed => rfl
    | @stored record id database after _ _ counts =>
        have left := counted_of_countPut counts
        rw [published.accounted.counts] at left
        rw [next_stored counts]
        split at left
        · next fires =>
            rw [if_pos fires]
            exact left.2.2
        · next waits =>
            rw [if_neg waits]
            exact left.2.2.trans published.committed_eq
    | unsettled _ _ counts =>
        exact (unsettled_of_countPut counts).2.2.2.trans published.committed_eq
  · -- What is published is a view of this stage, or what was published before.
    rw [Account.next.eq_def]
    split
    · exact seen
    · exact seen
    · split
      · exact seen
      · exact published.kept
    · exact published.kept
    · exact published.kept
    · exact published.kept

/-! ## Reading from a file -/

/-- A storage that has just been opened sees the database, and can read it. -/
theorem refresh_opened
    (made : Workspace)
    {workspace : Workspace}
    {connection : Connection}
    {database : Database}
    {place : Path.Place}
    (isPlace : connection.place = some place)
    (reads : workspace.read connection = .ok database)
    (isQuiet : workspace.changing? place = none)
    (location : Location)
    (isIdentifier : Identifier.check location.table = .ok ())
    (schema : Schema)
    (policy : AutoCommit) :
    let storage := opened made location isIdentifier schema policy connection database
    (storage.refresh workspace).view = database ∧
      (storage.refresh workspace).readHindrance = none := by
  intro storage
  have holds := Session.database_of_read isPlace reads
  constructor
  · rw [refresh_eq fun other isOther => ?_]
    · rfl
    · rw [← Option.some.inj (isPlace.symm.trans isOther)]
      exact holds
  · have isAlone := Workspace.changedElsewhere?_of_isQuiet isPlace isQuiet false
    obtain ⟨notBusy, isReadable⟩ :=
      Workspace.openingHindrance?_eq_none_iff.mp
        (Workspace.openingHindrance?_of_read isPlace reads)
    show workspace.readHindrance? connection none location.table = none
    refine Workspace.readHindrance?_eq_none_iff.mpr ⟨notBusy, isReadable, ?_⟩
    intro changed isChanged
    cases isChanged.symm.trans isAlone

end Storage

theorem Workspace.LeavesAlone.database_eq
    {before after : Workspace}
    {place : Path.Place}
    (leavesAlone : before.LeavesAlone after place) :
    after.database place = before.database place := by
  rw [Workspace.database, Workspace.database, leavesAlone.entry_eq]

namespace Session

variable {session : Session} {place : Path.Place}

/-! ## Sessions that others can read along with -/

/--
A session whose file can be read by others: its journal can, a journal can be
written once something was changed, and only the session itself may have
changed something or be about to.
-/
structure Calm (session : Session) (place : Path.Place) : Prop where
  settled : session.Settled
  isPlace : session.storage.connection.place = some place
  isReadable :
    session.storage.connection.isFrozen = false → session.workspace.hasBadJournal place = false
  unwritten :
    session.workspace.lacksJournal place = true → session.storage.view = session.storage.committed
  alone :
    session.workspace.changing? place ≠ none →
      session.storage.connection.isShared = true ∧ session.storage.isWriting = true
  onlyWriter :
    ∀ hold ∈ session.workspace.holds, hold.place = place → hold.lock.isWriting = true →
      session.storage.lock?.bind (Workspace.hold? session.storage.connection) = some hold

namespace Calm

/-- Where a journal cannot be written, nothing is, and the file stays as it is. -/
theorem unchanged_of_lacksJournal
    (calm : session.Calm place)
    {storage : Storage}
    (leads : session.Leads storage)
    (lacks : session.workspace.lacksJournal place = true) :
    storage.view = storage.committed ∧
      (storage.save session.workspace session.storage).entries = session.workspace.entries := by
  have hinders : session.current.writeHindrance ≠ none := by
    intro free
    have writable := Workspace.writeHindrance?_eq_none_iff.mp free
    rw [writable.hasJournal place calm.isPlace] at lacks
    contradiction
  have hindered := leads.hindered hinders (calm.unwritten lacks)
  refine ⟨hindered.view_eq.trans hindered.committed.symm, ?_⟩
  have isKnown : session.workspace.database place = .ok storage.committed := by
    rw [hindered.committed]
    exact calm.settled.holds place calm.isPlace
  rw [storage.entries_save]
  rcases
    session.workspace.save_eq_or (leads.connection_eq ▸ calm.isPlace) storage.committed with
    same | ⟨isNew, _⟩
  · rw [same]
  · exact absurd isKnown isNew

/-- The session is calm after every stage. -/
theorem stage
    (calm : session.Calm place)
    {storage : Storage}
    (leads : session.Leads storage) :
    Calm ⟨storage, storage.save session.workspace session.storage⟩ place := by
  have sameConnection := leads.connection_eq
  have isPlace : storage.connection.place = some place := sameConnection ▸ calm.isPlace
  have isFilePlace := calm.settled.isFilePlace place calm.isPlace
  refine ⟨leads.settled calm.settled, isPlace, ?_, ?_, ?_, ?_⟩
  · intro notFrozen
    rw [sameConnection] at notFrozen
    -- A file that is written gets a content that its journal could belong to, so that it matters
    -- whether the journal could be written.
    cases lacks : session.workspace.lacksJournal place with
    | false => exact hasBadJournal_eq (lacksJournal_save isPlace isFilePlace _ lacks)
    | true =>
        rcases calm.unchanged_of_lacksJournal leads lacks with ⟨_, sameEntries⟩
        rw [← calm.isReadable notFrozen, Workspace.hasBadJournal, Workspace.hasBadJournal,
          Workspace.isDirectory, Workspace.isDirectory, Workspace.entry?_congr sameEntries,
          Workspace.entry?_congr sameEntries]
  · intro lacksAfter
    cases lacks : session.workspace.lacksJournal place with
    | false =>
        rw [lacksJournal_save isPlace isFilePlace session.storage lacks] at lacksAfter
        contradiction
    | true => exact (calm.unchanged_of_lacksJournal leads lacks).1
  · intro isChanging
    cases isShared : storage.connection.isShared with
    | false =>
        rw [storage.changing?_save_of_apart isShared] at isChanging
        have sharesSession := (calm.alone isChanging).1
        rw [← sameConnection, isShared] at sharesSession
        contradiction
    | true =>
        refine ⟨rfl, ?_⟩
        by_contra notWriting
        rw [Bool.not_eq_true] at notWriting
        apply isChanging
        apply Storage.changing?_save_of_idle isPlace isShared notWriting
        intro wasIdle
        by_contra wasChanging
        rw [(calm.alone wasChanging).2] at wasIdle
        contradiction
  · intro hold member isHere isWriting
    obtain ⟨announced, sameHolds, isExchange⟩ :=
      storage.exists_exchange_of_save session.workspace session.storage
    rw [isExchange] at member
    refine Workspace.eq_of_writing_of_exchange ?_ member isWriting
    intro known isKnown samePlace writes
    rw [sameHolds] at isKnown
    rw [sameConnection]
    exact calm.onlyWriter known isKnown (samePlace.trans isHere) writes

/-- The session stays calm while others leave its file alone. -/
theorem changed
    (calm : session.Calm place)
    {workspace : Workspace}
    (leavesAlone : session.workspace.LeavesAlone workspace place) :
    Calm ⟨session.storage, workspace⟩ place := by
  have noDirectory
      (isNone : session.workspace.isDirectory (Path.journal place) = false) :
      workspace.isDirectory (Path.journal place) = false := by
    by_contra isDirectory
    rw [Bool.not_eq_false] at isDirectory
    rw [leavesAlone.journal isDirectory] at isNone
    contradiction
  refine ⟨calm.settled.changed ?_, calm.isPlace, ?_, ?_, ?_, ?_⟩
  · intro other isOther
    rw [← Option.some.inj (calm.isPlace.symm.trans isOther)]
    exact leavesAlone.database_eq
  · intro notFrozen
    have isReadable := calm.isReadable notFrozen
    rw [Workspace.hasBadJournal] at isReadable ⊢
    rw [leavesAlone.entry_eq]
    split at isReadable
    · rw [Bool.and_eq_false_iff] at isReadable ⊢
      exact isReadable.imp_right noDirectory
    · rfl
  · intro lacks
    apply calm.unwritten
    simp only [Workspace.lacksJournal, Bool.and_eq_true, Bool.or_eq_true] at *
    exact ⟨lacks.1, lacks.2.imp_left leavesAlone.journal⟩
  · intro isChanging
    rw [leavesAlone.changing_eq] at isChanging
    exact calm.alone isChanging
  · intro hold member isHere isWriting
    exact calm.onlyWriter hold (leavesAlone.noNewWriter hold member isHere isWriting) isHere
      isWriting

/-- Whoever watches the file sees what the session has committed. -/
theorem view_eq
    (calm : session.Calm place)
    {second : Storage}
    (watches : second.Watches session.storage) :
    (second.refresh session.workspace).view = session.storage.committed := by
  have isPlace : second.connection.place = some place := watches.place_eq.trans calm.isPlace
  have holds := calm.settled.holds place calm.isPlace
  have notWriting : (second.refresh session.workspace).isWriting = false := watches.notWriting
  rw [Storage.view_of_notWriting notWriting]
  simp [Storage.refresh, watches.notFrozen, isPlace, holds]

/-- Who watches the file may begin to read, unless the session keeps everybody from that. -/
theorem notBusyForReading
    (calm : session.Calm place)
    (idle : Path.isMemoryFile place = true → session.storage.isWriting = false)
    (notExclusive : session.storage.lock? ≠ some .exclusive)
    {connection : Connection}
    (isPlace : connection.place = some place)
    (own : Option Lock) :
    session.workspace.isBusyForReading connection own = false := by
  rw [Workspace.isBusyForReading, Bool.and_eq_false_iff]
  right
  apply List.any_eq_false.mpr
  intro lock met
  rcases Workspace.exists_of_mem_othersLocks met with ⟨hold, member, isHere, rfl⟩
  have samePlace : hold.place = place := Option.some.inj (isHere.symm.trans isPlace)
  have isHeld (writes : hold.lock.isWriting = true) :
      session.storage.lock? = some hold.lock := by
    obtain ⟨held, isLock, isHold⟩ :=
      Option.bind_eq_some_iff.mp (calm.onlyWriter hold member samePlace writes)
    obtain ⟨-, -, sameLock, -⟩ := Workspace.hold?_eq_some_iff.mp isHold
    exact isLock.trans (congrArg some sameLock.symm)
  simp only [isPlace, Option.any_some, Bool.or_eq_true, Bool.and_eq_true, beq_iff_eq]
  rintro (isExclusive | ⟨isLock, isMemory⟩)
  · exact notExclusive (isExclusive ▸ isHeld (by rw [isExclusive]; rfl))
  · have isWriting : session.storage.isWriting = true := by
      rw [Storage.isWriting, isHeld (by rw [isLock]; rfl), isLock]
      rfl
    rw [idle isMemory] at isWriting
    contradiction

/-- Nothing hinders whoever watches the file, unless the session keeps everybody from reading. -/
theorem readHindrance_eq
    (calm : session.Calm place)
    (onDisk : Path.isInMemory place = false)
    (notFrozen : session.storage.connection.isFrozen = false)
    (notExclusive : session.storage.lock? ≠ some .exclusive)
    {second : Storage}
    (watches : second.Watches session.storage) :
    (second.refresh session.workspace).readHindrance = none := by
  have isPlace : second.connection.place = some place := watches.place_eq.trans calm.isPlace
  have isReadable :
      session.workspace.isUnreadable second.connection second.lock? = false := by
    rw [Workspace.isUnreadable, isPlace, Option.any_some, calm.isReadable notFrozen,
      Bool.and_false, Bool.false_and]
  have isAlone : session.workspace.changedElsewhere? second.connection second.isWriting = none := by
    rw [Workspace.changedElsewhere?, isPlace]
    split
    · next shares =>
        rw [Bool.and_eq_true] at shares
        by_contra isChanging
        have isShared := (calm.alone isChanging).1
        rw [watches.apart shares.1] at isShared
        contradiction
    · rfl
  have notMemoryFile : Path.isMemoryFile place = false := Path.isMemoryFile_of_onDisk onDisk
  have notBusy :=
    calm.notBusyForReading (by simp [notMemoryFile]) notExclusive isPlace second.lock?
  refine Workspace.readHindrance?_eq_none_iff.mpr ⟨notBusy, isReadable, ?_⟩
  intro changed isChanged
  cases isChanged.symm.trans isAlone

/-- When the session is closed, its file stays as it is, and nobody is changing it. -/
theorem closed
    (calm : session.Calm place)
    (onDisk : Path.isInMemory place = false) :
    (session.storage.disconnect session.workspace).database place =
        .ok session.storage.committed ∧
      (session.storage.disconnect session.workspace).changing? place = none := by
  have leads : session.Leads session.current.close := by
    constructor
    · rfl
    · intro hinders unwritten
      have committed := (calm.settled.leads.hindered hinders unwritten).committed
      exact ⟨hinders, committed, committed⟩
    · intro _ _
      rfl
  have after := calm.stage leads
  have isQuiet :
      (session.current.close.save session.workspace session.storage).changing? place = none := by
    by_contra isChanging
    exact absurd (after.alone isChanging).2 nofun
  have holds := after.settled.holds place after.isPlace
  have sameCommitted : session.current.close.committed = session.storage.committed := by
    show session.current.committed = _
    rw [calm.settled.current_eq]
  constructor
  · exact
      (Workspace.database_disconnect after.isPlace onDisk place).trans
        (holds.trans (congrArg Except.ok sameCommitted))
  · exact Workspace.changing?_disconnect after.isPlace onDisk isQuiet

end Calm

/-! ## Opening -/

/-- A new table of names in a file. -/
def names : Session :=
  (begin? (Storage.openTable .empty nameSchema "sqlite://x.db:t" .manual)).get
    (by decide +kernel)

theorem opens_names : Opens .empty names :=
  .inl ⟨_, _, _, eq_of_begin? (Option.some_get _).symm⟩

/-- A new table of names in a file, opened so that every put is committed. -/
def eager : Session :=
  (begin? (Storage.openTable .empty nameSchema "sqlite://x.db:t" .everyPut)).get
    (by decide +kernel)

/-- A new table of names in a file that connections share. -/
def shared : Session :=
  (begin?
    (Storage.openTable .empty nameSchema "sqlite://file:x.db?cache=shared:t" .manual)).get
      (by decide +kernel)

/-- The table of names opened a second time, as one that never changes. -/
def frozen : Session :=
  (begin? (Storage.openExisting names.workspace "sqlite://file:x.db?immutable=1:t" .manual)).get
    (by decide +kernel)

end Session

end RecordStore
