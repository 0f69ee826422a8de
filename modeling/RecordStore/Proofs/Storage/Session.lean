import RecordStore.Proofs.Storage.Seen
import RecordStore.Proofs.Workspace.Hindrance

/-!
# Sessions and their files

Between operations the file of a session holds what the session has
committed, and a session that may only read has written nothing.  Opening
begins so and every stage keeps it so, whatever the operations are and
whether they succeed.

Main statements: `Session.settled_of_opens` and `Session.Leads.settled`.
-/

namespace RecordStore

namespace Storage

/-! ## Opening -/

section Parsed

variable {text : String} {location : Location} (parsed : Location.parse text = .ok location)

include parsed

theorem openTable_eq (workspace : Workspace) (schema : Schema) (policy : AutoCommit) :
    openTable workspace schema text policy =
      match connect workspace location with
      | (.error error, made) => (.error error, made)
      | (.ok connection, made) =>
          match provideTable made connection location.table schema.fields with
          | .error fault => (.error (.database fault), made.disconnect connection)
          | .ok database =>
              let storage :=
                opened made location (Location.isIdentifier_of_parse parsed) schema policy
                  connection database
              (.ok storage, storage.save made storage) := by
  rw [openTable]
  split
  · next fails => cases fails.symm.trans parsed
  · next found =>
      cases found.symm.trans parsed
      rfl

theorem openExisting_eq (workspace : Workspace) (policy : AutoCommit) :
    openExisting workspace text policy =
      match connect workspace location with
      | (.error error, made) => (.error error, made)
      | (.ok connection, made) =>
          match made.read connection with
          | .error fault => (.error (.database fault), made.disconnect connection)
          | .ok database =>
              match readSchema database location.table with
              | .error fault => (.error (.schema fault), made.disconnect connection)
              | .ok schema =>
                  (.ok
                    (opened made location (Location.isIdentifier_of_parse parsed) schema policy
                      connection database),
                    made) := by
  rw [openExisting]
  split
  · next fails => cases fails.symm.trans parsed
  · next found =>
      cases found.symm.trans parsed
      rfl

end Parsed

theorem of_openTable
    {workspace after : Workspace}
    {schema : Schema}
    {text : String}
    {policy : AutoCommit}
    {storage : Storage}
    (opens : openTable workspace schema text policy = (.ok storage, after)) :
    ∃ location isIdentifier connection made database,
      Location.parse text = .ok location ∧
        connect workspace location = (.ok connection, made) ∧
          provideTable made connection location.table schema.fields = .ok database ∧
            storage = opened made location isIdentifier schema policy connection database ∧
              after = made.save connection database := by
  rw [openTable] at opens
  split at opens
  · cases opens
  · next location parsed =>
      split at opens
      · cases opens
      · next connection made connects =>
          split at opens
          · cases opens
          · next database provides =>
              cases opens
              exact
                ⟨location, _, connection, made, database, parsed, connects, provides, rfl,
                  Workspace.exchange_self _⟩

theorem of_openExisting
    {workspace after : Workspace}
    {text : String}
    {policy : AutoCommit}
    {storage : Storage}
    (opens : openExisting workspace text policy = (.ok storage, after)) :
    ∃ location isIdentifier connection database schema,
      Location.parse text = .ok location ∧
        connect workspace location = (.ok connection, after) ∧
          after.read connection = .ok database ∧
            readSchema database location.table = .ok schema ∧
              storage = opened after location isIdentifier schema policy connection database := by
  rw [openExisting] at opens
  split at opens
  · cases opens
  · next location parsed =>
      split at opens
      · cases opens
      · next connection made connects =>
          split at opens
          · cases opens
          · next database reads =>
              split at opens
              · cases opens
              · next schema readsSchema =>
                  cases opens
                  exact
                    ⟨location, _, connection, database, schema, parsed, connects, reads,
                      readsSchema, rfl⟩

/-- Directories are made first, and then the database is opened, if they could be made. -/
theorem exists_connect_eq (workspace : Workspace) (location : Location) :
    ∃ reached, workspace.Fills reached ∧
      ((∃ error, connect workspace location = (.error error, reached)) ∨
        connect workspace location =
          ((reached.connect location.database).1.mapError .database,
            (reached.connect location.database).2)) := by
  have fills := workspace.fills_makeDirectories (Path.directoriesAbove location.database)
  rw [connect]
  split
  next parents reached makes =>
    have reaches : workspace.Fills reached := by
      split at makes
      · cases makes
        exact .refl workspace
      · rw [Workspace.makeParents] at makes
        rw [makes] at fills
        exact fills
    refine ⟨reached, reaches, ?_⟩
    split
    · exact .inl ⟨_, rfl⟩
    · exact .inr rfl

theorem of_connect
    {workspace made : Workspace}
    {location : Location}
    {connection : Connection}
    (connects : connect workspace location = (.ok connection, made)) :
    ∃ reached, workspace.Fills reached ∧
      reached.connect location.database = (.ok connection, made) := by
  rcases exists_connect_eq workspace location with ⟨reached, reaches, ⟨error, fails⟩ | tries⟩
  · cases fails.symm.trans connects
  · rcases Prod.mk.inj (tries.symm.trans connects) with ⟨succeeds, isMade⟩
    exact ⟨reached, reaches, Prod.ext (Outcome.mapError_eq_ok_iff.mp succeeds) isMade⟩

theorem isFilePlace_of_connect
    {workspace made : Workspace}
    {location : Location}
    {connection : Connection}
    (connects : connect workspace location = (.ok connection, made))
    {place : Path.Place}
    (isPlace : connection.place = some place) :
    Path.IsFilePlace place := by
  rcases of_connect connects with ⟨reached, _, opens⟩
  exact Workspace.isFilePlace_of_connect opens isPlace

/-- Connecting changes nothing in databases, nor what is being changed. -/
theorem unchanged_of_connect
    {workspace made : Workspace}
    {location : Location}
    {connection : Connection}
    (connects : connect workspace location = (.ok connection, made))
    {place : Path.Place}
    (isPlace : connection.place = some place) :
    made.database place = workspace.database place ∧
      made.changing? place = workspace.changing? place := by
  rcases of_connect connects with ⟨reached, fills, opens⟩
  rcases Workspace.unchanged_of_connect opens isPlace with ⟨sameDatabase, sameChange⟩
  constructor
  · exact (sameDatabase place).trans (fills.database_eq place)
  · rw [sameChange, Workspace.changing?, Workspace.changing?,
      Workspace.share?_congr fills.shares_eq]

/-! ## Refreshing -/

/-- A storage whose database holds what it has committed learns nothing but its hindrances. -/
theorem refresh_eq
    {storage : Storage}
    {workspace : Workspace}
    (holds :
      ∀ place, storage.connection.place = some place →
        workspace.database place = .ok storage.committed) :
    storage.refresh workspace =
      { storage with
        readHindrance := workspace.readHindrance? storage.connection storage.lock? storage.table
        writeHindrance := workspace.writeHindrance? storage.connection storage.lock?
        commitHindrance := workspace.commitHindrance? storage.connection storage.lock?
        isCramped := workspace.isCramped } := by
  rw [refresh]
  congr 1
  cases isPlace : storage.connection.place with
  | none => simp
  | some place => simp [holds place isPlace]

theorem entries_save (storage : Storage) (workspace : Workspace) (before : Storage) :
    (storage.save workspace before).entries =
      (workspace.save storage.connection storage.committed).entries := by
  rw [save, Workspace.entries_exchange]
  split
  · exact Workspace.entries_setChanging _ _ _
  · split
    · exact Workspace.entries_setChanging _ _ _
    · rfl

/-- Saving leaves alone how full the disk and the memory are. -/
theorem save_eq_known (storage : Storage) (workspace : Workspace) (before : Storage) :
    storage.save workspace before =
      { workspace with
        entries := (storage.save workspace before).entries
        shares := (storage.save workspace before).shares
        holds := (storage.save workspace before).holds } := by
  rw [save, Workspace.exchange_eq_holds]
  split
  · rw [Workspace.setChanging_eq_shares, Workspace.save_eq_entries]
  · split
    · rw [Workspace.setChanging_eq_shares, Workspace.save_eq_entries]
    · rw [Workspace.save_eq_entries]

/-- What a storage has committed and is changing is saved first, and then its lock is exchanged. -/
theorem exists_exchange_of_save (storage : Storage) (workspace : Workspace) (before : Storage) :
    ∃ announced : Workspace, announced.holds = workspace.holds ∧
      storage.save workspace before =
        announced.exchange storage.connection before.lock? storage.lock? := by
  have sameHolds (table : Option String) :
      ((workspace.save storage.connection storage.committed).setChanging storage.connection
        table).holds = workspace.holds := by
    rw [Workspace.setChanging_eq_shares, Workspace.save_eq_entries]
  have saved : (workspace.save storage.connection storage.committed).holds = workspace.holds := by
    rw [Workspace.save_eq_entries]
  rw [save]
  split
  · exact ⟨_, sameHolds _, rfl⟩
  · split
    · exact ⟨_, sameHolds _, rfl⟩
    · exact ⟨_, saved, rfl⟩

/-- Whatever a storage has locked before, it meets the same locks of others. -/
theorem othersLocks_save
    {storage before : Storage}
    {workspace : Workspace}
    (alone :
      storage.isWriting = true →
        workspace.isBusyForWriting storage.connection before.lock? = false) :
    (storage.save workspace before).othersLocks storage.connection storage.lock? =
      workspace.othersLocks storage.connection before.lock? := by
  obtain ⟨announced, sameHolds, isExchange⟩ := storage.exists_exchange_of_save workspace before
  have sameLocks := Workspace.othersLocks_congr sameHolds storage.connection before.lock?
  rw [isExchange, Workspace.othersLocks_exchange, sameLocks]
  intro isWriting
  rw [Workspace.isBusyForWriting, sameLocks]
  exact alone isWriting

/-- What others know to be changed stays, if the storage does not share what it knows. -/
theorem changing?_save_of_apart
    (storage : Storage)
    {workspace : Workspace}
    {before : Storage}
    (apart : storage.connection.isShared = false)
    (place : Path.Place) :
    (storage.save workspace before).changing? place = workspace.changing? place := by
  have sameShares := workspace.shares_save storage.connection storage.committed
  have sameShare (table : Option String) :
      ((workspace.save storage.connection storage.committed).setChanging storage.connection
          table).share? place = workspace.share? place := by
    rw [Workspace.setChanging_of_apart apart]
    exact Workspace.share?_congr sameShares place
  rw [Workspace.changing?, Workspace.changing?, save,
    Workspace.share?_congr Workspace.shares_exchange]
  split
  · rw [sameShare]
  · split
    · rw [sameShare]
    · rw [Workspace.share?_congr sameShares]

/-- A storage that is not changing anything makes that known. -/
theorem changing?_save_of_idle
    {storage before : Storage}
    {workspace : Workspace}
    {place : Path.Place}
    (isPlace : storage.connection.place = some place)
    (isShared : storage.connection.isShared = true)
    (notWriting : storage.isWriting = false)
    (alone : before.isWriting = false → workspace.changing? place = none) :
    (storage.save workspace before).changing? place = none := by
  have sameShares := workspace.shares_save storage.connection storage.committed
  have sameShare := Workspace.share?_congr sameShares place
  rw [Workspace.changing?, save, Workspace.share?_congr Workspace.shares_exchange, notWriting,
    if_neg Bool.false_ne_true]
  cases wasWriting : before.isWriting with
  | false =>
      rw [if_neg Bool.false_ne_true, sameShare]
      exact alone wasWriting
  | true =>
      rw [if_pos rfl]
      cases found : (workspace.save storage.connection storage.committed).share? place with
      | none =>
          simp only [Workspace.setChanging, isPlace, found]
          rfl
      | some share =>
          rw [Workspace.share?_setChanging isPlace isShared found]
          rfl

/-! ## Storages that cannot write -/

/-- Something hinders the storage from writing, and it has not written anything. -/
structure Hindered (start storage : Storage) : Prop where
  hinders : storage.writeHindrance ≠ none
  view_eq : storage.view = start.committed
  committed : storage.committed = start.committed

namespace Hindered

variable {start storage : Storage}

/-- No stage gets past what hinders a storage. -/
theorem step
    (hindered : Hindered start storage)
    {stage : Stage}
    (step : Step storage stage) :
    Hindered start stage.storage := by
  have hinders : stage.storage.writeHindrance ≠ none := by
    rw [step.continues.writeHindrance_eq]
    exact hindered.hinders
  cases step with
  | rested rests =>
      have committed := rests.committed_eq.trans hindered.committed
      rcases rests.view_eq_or with same | ⟨_, lost⟩
      · exact ⟨hinders, same.trans hindered.view_eq, committed⟩
      · exact ⟨hinders, lost.trans hindered.committed, committed⟩
  | removed deletes => exact absurd (free_of_removed deletes) hindered.hinders
  | stored checked stores | unsettled checked stores =>
      exact absurd (of_storeRecord checked stores).1 hindered.hinders
  | committed => exact ⟨hinders, hindered.view_eq, hindered.view_eq⟩

end Hindered

end Storage

namespace Session

/-! ## Settled sessions -/

/-- The file of the session holds what it has committed; one that only reads has not written. -/
structure Settled (session : Session) : Prop where
  isFilePlace :
    ∀ place, session.storage.connection.place = some place → Path.IsFilePlace place
  holds :
    ∀ place, session.storage.connection.place = some place →
      session.workspace.database place = .ok session.storage.committed
  notWriting :
    session.storage.connection.isReadOnly = true → session.storage.isWriting = false

/-- Stages lead from the beginning of an operation to a storage. -/
structure Leads (session : Session) (storage : Storage) : Prop where
  continues : Storage.Continues session.current storage
  hindered :
    session.current.writeHindrance ≠ none → session.storage.view = session.storage.committed →
      Storage.Hindered session.storage storage
  passive :
    ¬ session.current.MayTakeLock → session.storage.isWriting = false → storage.isWriting = false

variable {session : Session}

theorem Settled.current_eq (settled : session.Settled) :
    session.current =
      { session.storage with
        readHindrance :=
          session.workspace.readHindrance? session.storage.connection session.storage.lock?
            session.storage.table
        writeHindrance :=
          session.workspace.writeHindrance? session.storage.connection session.storage.lock?
        commitHindrance :=
          session.workspace.commitHindrance? session.storage.connection session.storage.lock?
        isCramped := session.workspace.isCramped } :=
  Storage.refresh_eq settled.holds

theorem Settled.view_current (settled : session.Settled) :
    session.current.view = session.storage.view := by
  rw [settled.current_eq]
  rfl

/-- A session stays settled as long as its database stays as it is. -/
theorem Settled.changed
    (settled : session.Settled)
    {workspace : Workspace}
    (sameDatabase :
      ∀ place, session.storage.connection.place = some place →
        workspace.database place = session.workspace.database place) :
    Settled ⟨session.storage, workspace⟩ :=
  ⟨settled.isFilePlace,
    fun place isPlace => (sameDatabase place isPlace).trans (settled.holds place isPlace),
    settled.notWriting⟩

theorem Settled.leads (settled : session.Settled) : session.Leads session.current := by
  constructor
  · exact .refl _
  · intro hinders unwritten
    constructor
    · exact hinders
    · exact settled.view_current.trans unwritten
    · rw [settled.current_eq]
  · intro _ notWriting
    exact notWriting

namespace Leads

variable {storage : Storage}

theorem step
    (leads : session.Leads storage)
    {stage : Stage}
    (step : Storage.Step storage stage) :
    session.Leads stage.storage where
  continues := leads.continues.trans step.continues
  hindered hinders unwritten := (leads.hindered hinders unwritten).step step
  passive mayNot notWriting := by
    refine Storage.notWriting_of_step step ?_ (leads.passive mayNot notWriting)
    rw [Storage.MayTakeLock, leads.continues.writeHindrance_eq]
    exact mayNot

theorem connection_eq (leads : session.Leads storage) :
    storage.connection = session.storage.connection :=
  leads.continues.connection_eq

/-- What may only be read is hindered from being written, before it takes a lock for that. -/
theorem hinders_of_isReadOnly (isReadOnly : session.storage.connection.isReadOnly = true) :
    session.current.writeHindrance = some .readOnly :=
  if_pos isReadOnly

theorem hindered_of_isReadOnly
    (leads : session.Leads storage)
    (settled : session.Settled)
    (isReadOnly : session.storage.connection.isReadOnly = true) :
    Storage.Hindered session.storage storage := by
  apply leads.hindered
  · simp [hinders_of_isReadOnly isReadOnly]
  · exact Storage.view_of_notWriting (settled.notWriting isReadOnly)

theorem notWriting_of_isReadOnly
    (leads : session.Leads storage)
    (settled : session.Settled)
    (isReadOnly : session.storage.connection.isReadOnly = true) :
    storage.isWriting = false := by
  apply leads.passive
  · intro mayTakeLock
    have notGrave := mayTakeLock .readOnly (hinders_of_isReadOnly isReadOnly)
    contradiction
  · exact settled.notWriting isReadOnly

/-- After every stage the file holds what is committed by then. -/
theorem settled
    (leads : session.Leads storage)
    (before : session.Settled) :
    Settled ⟨storage, storage.save session.workspace session.storage⟩ := by
  have sameConnection := leads.connection_eq
  constructor
  · intro place isPlace
    rw [sameConnection] at isPlace
    exact before.isFilePlace place isPlace
  · intro place isPlace
    have unchanged :
        storage.connection.isFrozen = true → storage.committed = session.storage.committed := by
      intro isFrozen
      apply (leads.hindered_of_isReadOnly before _).committed
      rw [← sameConnection]
      exact storage.connection.isReadOnly_of_isFrozen isFrozen
    have isSame : session.storage.connection.place = some place := sameConnection ▸ isPlace
    have saved :=
      Workspace.database_save isPlace (before.isFilePlace place isSame)
        (before.holds place isSame) unchanged
    have sameEntry :=
      Workspace.entry?_congr
        (storage.entries_save session.workspace session.storage) place
    show Workspace.database (storage.save _ _) place = _
    rw [Workspace.database, sameEntry]
    exact saved
  · intro isReadOnly
    rw [sameConnection] at isReadOnly
    exact leads.notWriting_of_isReadOnly before isReadOnly

end Leads

theorem Settled.leads_perform
    (settled : session.Settled)
    (operation : Storage.Operation) :
    session.Leads (session.current.perform operation).2 :=
  Storage.perform_induction (fun _ _ step leads => leads.step step) settled.leads operation

/-- An operation leaves a settled session settled. -/
theorem Settled.perform
    (settled : session.Settled)
    (operation : Storage.Operation) :
    (session.perform operation).2.Settled :=
  (settled.leads_perform operation).settled settled

theorem Settled.after
    (settled : session.Settled)
    (operations : List Storage.Operation) :
    (session.after operations).Settled :=
  after_induction (fun _ operation settled => settled.perform operation) settled operations

/-! ## How sessions begin -/

/-- What is provided for a table is what was read, unless it can be written. -/
theorem of_provideTable
    {workspace : Workspace}
    {connection : Connection}
    {table : String}
    {columns : List String}
    {database : Database}
    (provides : Storage.provideTable workspace connection table columns = .ok database) :
    ∃ known, workspace.read connection = .ok known ∧
      Database.checkTableName table = .ok () ∧
        (((known.table? table).isSome = true ∧ database = known) ∨
          (known.table? table = none ∧
            workspace.changeHindrance? connection = none ∧
              known.createTable table columns = .ok database)) := by
  rcases Outcome.bind_eq_ok_iff.mp provides with ⟨_, accepted, reading⟩
  rcases Outcome.bind_eq_ok_iff.mp reading with ⟨known, reads, creating⟩
  refine ⟨known, reads, accepted, ?_⟩
  split at creating
  · next isThere =>
      exact .inl ⟨isThere, (Except.ok.inj creating).symm⟩
  · next lacks =>
      have isMissing : known.table? table = none := by simpa using lacks
      rcases DatabaseFault.hinder_eq_ok_iff.mp creating with ⟨free, creates⟩
      exact .inr ⟨isMissing, free, creates⟩

theorem database_of_read
    {workspace : Workspace}
    {connection : Connection}
    {place : Path.Place}
    (isPlace : connection.place = some place)
    {database : Database}
    (reads : workspace.read connection = .ok database) :
    workspace.database place = .ok database := by
  simp only [Workspace.read, isPlace] at reads
  split at reads
  · contradiction
  · exact reads

/-- A session begins with a storage that has just been opened. -/
theorem exists_opened_of_opens
    {workspace : Workspace}
    (opens : Opens workspace session) :
    ∃ made location isIdentifier schema policy connection database,
      session.storage =
        Storage.opened made location isIdentifier schema policy connection database := by
  rcases opens with ⟨schema, text, policy, opens⟩ | ⟨text, policy, opens⟩
  · rcases Storage.of_openTable opens with
      ⟨location, isIdentifier, connection, made, database, _, _, _, isStorage, _⟩
    exact ⟨made, location, isIdentifier, schema, policy, connection, database, isStorage⟩
  · rcases Storage.of_openExisting opens with
      ⟨location, isIdentifier, connection, database, schema, _, _, _, _, isStorage⟩
    exact ⟨_, location, isIdentifier, schema, policy, connection, database, isStorage⟩

/-- A session begins settled. -/
theorem settled_of_opens
    {workspace : Workspace}
    (opens : Opens workspace session) :
    session.Settled := by
  rcases opens with ⟨schema, text, policy, opens⟩ | ⟨text, policy, opens⟩
  · rcases Storage.of_openTable opens with
      ⟨location, _, connection, made, database, _, connects, provides, isStorage, isWorkspace⟩
    rcases of_provideTable provides with ⟨known, reads, _, origin⟩
    have unchanged : connection.isFrozen = true → database = known := by
      intro isFrozen
      rcases origin with ⟨_, same⟩ | ⟨_, free, _⟩
      · exact same
      · have free := Workspace.changeHindrance?_eq_none_iff.mp free
        have notReadOnly := (Workspace.writeHindrance?_eq_none_iff.mp free.1).notReadOnly
        rw [connection.isReadOnly_of_isFrozen isFrozen] at notReadOnly
        contradiction
    constructor
    · intro place isPlace
      rw [isStorage] at isPlace
      exact Storage.isFilePlace_of_connect connects isPlace
    · intro place isPlace
      rw [isStorage] at isPlace ⊢
      rw [isWorkspace]
      exact
        Workspace.database_save isPlace (Storage.isFilePlace_of_connect connects isPlace)
          (database_of_read isPlace reads) unchanged
    · intro _
      rw [isStorage]
      rfl
  · rcases Storage.of_openExisting opens with
      ⟨location, _, connection, database, schema, _, connects, reads, _, isStorage⟩
    constructor
    · intro place isPlace
      rw [isStorage] at isPlace
      exact Storage.isFilePlace_of_connect connects isPlace
    · intro place isPlace
      rw [isStorage] at isPlace ⊢
      exact database_of_read isPlace reads
    · intro _
      rw [isStorage]
      rfl

/-! ## Some sessions -/

/-- The session that begins when a storage was opened. -/
def begin? (opening : Except Error Storage × Workspace) : Option Session :=
  opening.1.toOption.map fun storage => ⟨storage, opening.2⟩

theorem eq_of_begin?
    {opening : Except Error Storage × Workspace}
    {session : Session}
    (begins : begin? opening = some session) :
    opening = (.ok session.storage, session.workspace) := by
  rcases opening with ⟨outcome, workspace⟩
  rcases Option.map_eq_some_iff.mp begins with ⟨storage, succeeds, rfl⟩
  exact Prod.ext (Outcome.eq_ok_of_toOption succeeds) rfl

/-- The schema with names alone. -/
def nameSchema : Schema :=
  ⟨["name"], by decide +kernel⟩

/-- A record with a name. -/
def person (name : String) : Record :=
  ⟨none, .ofList [("name", .text name)]⟩

end Session

end RecordStore
