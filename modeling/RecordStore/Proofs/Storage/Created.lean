import RecordStore.Proofs.Storage.Ready
import RecordStore.Proofs.Storage.Session

/-!
# Sessions that have created their table

A session that begins with the creation of its table finds nothing in its
way: had there been anything, the table would not have been created.  So it
stays, and the storage is ready before and after every operation.

Main statement: `Session.exists_ready_of_creates`.
-/

namespace RecordStore

namespace Session

/-- Nothing is in the way of the session. -/
structure Free (session : Session) : Prop where
  isWritable : session.workspace.IsWritable session.storage.connection session.storage.lock?
  unlocked :
    session.workspace.othersLocks session.storage.connection session.storage.lock? = []

theorem hasBadJournal_eq
    {workspace : Workspace}
    {place : Path.Place}
    (hasJournal : workspace.lacksJournal place = false) :
    workspace.hasBadJournal place = false := by
  rw [Workspace.lacksJournal] at hasJournal
  rw [Workspace.hasBadJournal]
  split
  · simp only [Bool.and_eq_false_iff, Bool.or_eq_false_iff] at hasJournal ⊢
    rcases hasJournal with inMemory | ⟨noDirectory, _⟩
    · exact .inl (.inr inMemory)
    · exact .inr noDirectory
  · rfl

theorem isUnreadable_of_hasJournal
    {workspace : Workspace}
    {connection : Connection}
    {own : Option Lock}
    (hasJournal :
      ∀ place, connection.place = some place → workspace.lacksJournal place = false) :
    workspace.isUnreadable connection own = false := by
  have noBadJournal : connection.place.any workspace.hasBadJournal = false := by
    cases isPlace : connection.place with
    | none => rfl
    | some place => exact hasBadJournal_eq (hasJournal place isPlace)
  rw [Workspace.isUnreadable, noBadJournal, Bool.and_false, Bool.false_and]

variable {session : Session}

theorem Free.writeHindrance?_eq (free : session.Free) :
    session.workspace.writeHindrance? session.storage.connection session.storage.lock? = none :=
  Workspace.writeHindrance?_eq_none_iff.mpr free.isWritable

theorem Free.commitHindrance?_eq (free : session.Free) :
    session.workspace.commitHindrance? session.storage.connection session.storage.lock? =
      none := by
  refine Workspace.commitHindrance?_eq_none_iff.mpr ⟨?_, free.isWritable.hasSpace⟩
  rw [Workspace.isBusyForCommit, free.unlocked]
  rfl

/-! ## Saving -/

/-- A journal that could be written can be written after a database was saved. -/
theorem lacksJournal_save
    {storage : Storage}
    {workspace : Workspace}
    {place : Path.Place}
    (isPlace : storage.connection.place = some place)
    (isFilePlace : Path.IsFilePlace place)
    (before : Storage)
    (hasJournal : workspace.lacksJournal place = false) :
    (storage.save workspace before).lacksJournal place = false := by
  have noDirectory (isNone : workspace.isDirectory (Path.journal place) = false) :
      (storage.save workspace before).isDirectory (Path.journal place) = false := by
    have sameEntry :=
      Workspace.entry?_congr (storage.entries_save workspace before) (Path.journal place)
    by_contra isDirectory
    rw [Bool.not_eq_false, Workspace.isDirectory, sameEntry] at isDirectory
    rw [Workspace.isDirectory_of_save isPlace isFilePlace isDirectory] at isNone
    contradiction
  simp only [Workspace.lacksJournal, Bool.and_eq_false_iff, Bool.or_eq_false_iff] at *
  rcases hasJournal with inMemory | ⟨isNone, short⟩
  · exact .inl inMemory
  · exact .inr ⟨noDirectory isNone, short⟩

/-- Where nobody else is changing anything, nobody else is after a stage. -/
theorem changedElsewhere?_save
    (storage : Storage)
    {workspace : Workspace}
    {before : Storage}
    (alone : workspace.changedElsewhere? storage.connection before.isWriting = none) :
    (storage.save workspace before).changedElsewhere? storage.connection storage.isWriting =
      none := by
  rw [Workspace.changedElsewhere?] at alone ⊢
  split
  · next shares =>
      simp only [Bool.and_eq_true, Bool.not_eq_true'] at shares
      rcases shares with ⟨isShared, notWriting⟩
      cases isPlace : storage.connection.place with
      | none => rfl
      | some place =>
          apply Storage.changing?_save_of_idle isPlace isShared notWriting
          intro wasIdle
          simpa [isShared, wasIdle, isPlace, Workspace.changing?] using alone
  · rfl

section Saved

variable
    (writable : session.workspace.IsWritable session.storage.connection session.storage.lock?)
    {storage : Storage}
    (sameConnection : storage.connection = session.storage.connection)

include writable sameConnection

/-- A session that can write meets the same locks of others after a stage. -/
theorem othersLocks_of_isWritable :
    (storage.save session.workspace session.storage).othersLocks storage.connection
        storage.lock? =
      session.workspace.othersLocks session.storage.connection session.storage.lock? := by
  refine (Storage.othersLocks_save ?_).trans ?_
  · intro _
    rw [sameConnection]
    exact writable.notBusy
  · rw [sameConnection]

/-- A session that can write can go on to write after a stage. -/
theorem isWritable_save
    (isFilePlace :
      ∀ place, session.storage.connection.place = some place → Path.IsFilePlace place) :
    (storage.save session.workspace session.storage).IsWritable storage.connection
      storage.lock? := by
  have hasJournal (place : Path.Place) (isPlace : storage.connection.place = some place) :
      (storage.save session.workspace session.storage).lacksJournal place = false := by
    have isSame : session.storage.connection.place = some place := sameConnection ▸ isPlace
    exact
      lacksJournal_save isPlace (isFilePlace place isSame) _ (writable.hasJournal place isSame)
  constructor
  · rw [sameConnection]
    exact writable.notReadOnly
  · apply changedElsewhere?_save
    rw [sameConnection]
    exact writable.alone
  · rw [Workspace.isBusyForWriting, othersLocks_of_isWritable writable sameConnection]
    exact writable.notBusy
  · exact isUnreadable_of_hasJournal hasJournal
  · exact hasJournal
  · rw [Storage.save_eq_known, Workspace.lacksSpace, sameConnection]
    exact writable.hasSpace

end Saved

/-- Nothing is in the way of a session after it has saved what it has come to. -/
theorem Free.save
    (free : session.Free)
    (isFilePlace :
      ∀ place, session.storage.connection.place = some place → Path.IsFilePlace place)
    {storage : Storage}
    (sameConnection : storage.connection = session.storage.connection) :
    Free ⟨storage, storage.save session.workspace session.storage⟩ :=
  ⟨isWritable_save free.isWritable sameConnection isFilePlace,
    (othersLocks_of_isWritable free.isWritable sameConnection).trans free.unlocked⟩

/-! ## Operations -/

theorem schema_perform (session : Session) (operation : Storage.Operation) :
    (session.perform operation).2.storage.schema = session.storage.schema :=
  (session.current.continues_perform operation).schema_eq

theorem table_perform (session : Session) (operation : Storage.Operation) :
    (session.perform operation).2.storage.table = session.storage.table :=
  (session.current.continues_perform operation).table_eq

/-- Nothing is in the way of a session whose storage is ready. -/
structure Ready (session : Session) (table : Table) : Prop where
  settled : session.Settled
  free : session.Free
  storage : session.storage.Ready table
  sameMemory : session.storage.isCramped = session.workspace.isCramped

namespace Ready

variable {table : Table}

theorem current_eq (ready : session.Ready table) : session.current = session.storage := by
  have readable := ready.storage.readable
  have writable := ready.storage.writable
  have committable := ready.storage.committable
  have sameMemory := ready.sameMemory
  rw [ready.settled.current_eq, ready.free.isWritable.readHindrance?_eq,
    ready.free.writeHindrance?_eq,
    ready.free.commitHindrance?_eq]
  generalize session.storage = storage at readable writable committable sameMemory ⊢
  cases storage
  subst readable writable committable sameMemory
  rfl

theorem perform_eq (ready : session.Ready table) (operation : Storage.Operation) :
    session.perform operation =
      ((session.storage.perform operation).1,
        ⟨(session.storage.perform operation).2,
          (session.storage.perform operation).2.save session.workspace session.storage⟩) := by
  have same := ready.current_eq
  rw [Session.current] at same
  rw [Session.perform, Storage.run, same]

/-- A session is ready after an operation if its storage is. -/
theorem perform_of_ready
    (ready : session.Ready table)
    (operation : Storage.Operation)
    {changed : Table}
    (isReady : (session.storage.perform operation).2.Ready changed) :
    (session.perform operation).2.Ready changed := by
  have leads := ready.settled.leads_perform operation
  refine ⟨ready.settled.perform operation, ?_, ?_, ?_⟩
  · exact ready.free.save ready.settled.isFilePlace leads.connection_eq
  · rw [ready.perform_eq]
    exact isReady
  · rw [ready.perform_eq]
    dsimp only
    rw [Storage.save_eq_known, (session.storage.continues_perform operation).isCramped_eq]
    exact ready.sameMemory

end Ready

/-- The session is ready with a table of a kind, and would be if its transaction were lost. -/
structure Sound (kept : Table → Prop) (session : Session) : Prop where
  seen : ∃ table, session.Ready table ∧ kept table
  saved : ∃ table, session.storage.close.Ready table ∧ kept table

namespace Sound

variable {kept : Table → Prop}

variable
    (keeps : ∀ table changed, Storage.Ready.Becomes table changed → kept table → kept changed)

include keeps

/-- Whatever is asked of a sound session, it is sound afterwards. -/
theorem perform (sound : session.Sound kept) (operation : Storage.Operation) :
    (session.perform operation).2.Sound kept := by
  obtain ⟨known, ready, isKnown⟩ := sound.seen
  have begins : session.storage.Sound kept := ⟨⟨known, ready.storage, isKnown⟩, sound.saved⟩
  have after : (session.storage.perform operation).2.Sound kept :=
    Storage.perform_induction (fun _ _ step sound => sound.step keeps step) begins operation
  obtain ⟨table, isReady, isKept⟩ := after.seen
  refine ⟨⟨table, ready.perform_of_ready operation isReady, isKept⟩, ?_⟩
  rw [ready.perform_eq]
  exact after.saved

theorem after (sound : session.Sound kept) (operations : List Storage.Operation) :
    (session.after operations).Sound kept :=
  after_induction (fun _ operation sound => sound.perform keeps operation) sound operations

end Sound

/-! ## Creating the table -/

/-- A table as it is created. -/
def newTable (name : String) (columns : List String) : Table where
  name := name
  columns := columns
  rows := []
  definition := some (Sql.Statement.definition name columns)
  affinities := []
  key := none
  rules := []

/-- A table is created where no index has its name. -/
theorem noIndex_of_createTable
    {database created : Database}
    {name : String}
    {columns : List String}
    (isMissing : database.table? name = none)
    (creates : database.createTable name columns = .ok created) :
    database.indexes.any (Text.sameName name) = false := by
  rcases Outcome.bind_eq_ok_iff.mp creates with ⟨_, _, adds⟩
  rw [isMissing, if_neg (by simp)] at adds
  rcases Outcome.bind_eq_ok_iff.mp adds with ⟨_, isFree, _⟩
  rw [Database.checkFree] at isFree
  split at isFree
  · contradiction
  · next noIndex => simpa using noIndex

theorem of_createTable
    {database created : Database}
    {name : String}
    {columns : List String}
    (isMissing : database.table? name = none)
    (creates : database.createTable name columns = .ok created) :
    Database.checkColumns name [] columns = .ok () ∧
      created.table? name = some (newTable name columns) ∧
        database.indexes.any (Text.sameName name) = false := by
  rcases Database.table?_of_createTable isMissing creates with ⟨accepted, isTable⟩
  refine ⟨accepted, ?_, noIndex_of_createTable isMissing creates⟩
  rw [isTable, isMissing, Text.sameName_self]
  rfl

theorem suits_newTable (name : String) (columns : List String) :
    (newTable name columns).Suits columns :=
  ⟨rfl, rfl, rfl, rfl, .nil, fun _ member => absurd member List.not_mem_nil,
    fun _ member => absurd member List.not_mem_nil⟩

/-- A table is missing that is not in the one database at its location. -/
theorem lacksTable_of_connect
    {workspace made : Workspace}
    {text : String}
    {location : Location}
    {connection : Connection}
    {database : Database}
    (parsed : Location.parse text = .ok location)
    (connects : Storage.connect workspace location = (.ok connection, made))
    (reads : made.read connection = .ok database)
    (isMissing : database.table? location.table = none) :
    workspace.LacksTable text := by
  intro otherLocation otherConnection opened other parsedToo connectsToo readsToo
  cases parsed.symm.trans parsedToo
  cases connects.symm.trans connectsToo
  cases reads.symm.trans readsToo
  exact isMissing

/-- What opening has met and made when the table was missing. -/
theorem of_openTable_of_lacks
    {workspace after : Workspace}
    {schema : Schema}
    {text : String}
    {policy : AutoCommit}
    {storage : Storage}
    (lacks : workspace.LacksTable text)
    (opens : Storage.openTable workspace schema text policy = (.ok storage, after)) :
    ∃ location isIdentifier connection made known database,
      Location.parse text = .ok location ∧
        Storage.connect workspace location = (.ok connection, made) ∧
          made.read connection = .ok known ∧
            made.changeHindrance? connection = none ∧
              known.indexes.any (Text.sameName location.table) = false ∧
                Database.checkColumns location.table [] schema.fields = .ok () ∧
                  database.table? location.table =
                      some (newTable location.table schema.fields) ∧
                    storage =
                        Storage.opened made location isIdentifier schema policy connection
                          database ∧
                      after = made.save connection database := by
  rcases Storage.of_openTable opens with
    ⟨location, isIdentifier, connection, made, database, parsed, connects, provides, isStorage,
      isWorkspace⟩
  rcases of_provideTable provides with ⟨known, reads, _, origin⟩
  have isMissing := lacks location connection made known parsed connects reads
  rcases origin with ⟨isThere, _⟩ | ⟨_, free, created⟩
  · rw [isMissing] at isThere
    contradiction
  · rcases of_createTable isMissing created with ⟨checked, found, noIndex⟩
    exact
      ⟨location, isIdentifier, connection, made, known, database, parsed, connects, reads, free,
        noIndex, checked, found, isStorage, isWorkspace⟩

/-- Where a change can be made and committed nobody else holds a lock. -/
theorem othersLocks_of_changeHindrance?
    {workspace : Workspace}
    {connection : Connection}
    (free : workspace.changeHindrance? connection = none) :
    workspace.othersLocks connection none = [] := by
  obtain ⟨writes, commits⟩ := Workspace.changeHindrance?_eq_none_iff.mp free
  have noWriter := (Workspace.writeHindrance?_eq_none_iff.mp writes).notBusy
  have noReader := (Workspace.commitHindrance?_eq_none_iff.mp commits).1
  rw [Workspace.isBusyForWriting, List.any_eq_false] at noWriter
  rw [Workspace.isBusyForCommit, List.contains_eq_mem, decide_eq_false_iff_not] at noReader
  apply List.eq_nil_iff_forall_not_mem.mpr
  intro lock member
  cases lock with
  | reading => exact noReader member
  | writing | exclusive => exact noWriter _ member rfl

/-- A session that has created its table is ready. -/
theorem exists_ready_of_creates (creates : session.Creates) :
    ∃ name columns, session.Ready (newTable name columns) := by
  rcases creates with ⟨workspace, names, schema, text, policy, accepted, lacks, opens⟩
  have settled : session.Settled := settled_of_opens (.inl ⟨schema, text, policy, opens⟩)
  rcases of_openTable_of_lacks lacks opens with
    ⟨location, _, connection, made, _, database, parsed, _, _, free, _, checked, found, isStorage,
      isWorkspace⟩
  refine ⟨location.table, schema.fields, settled, ?_, ?_, ?_⟩
  · have sameWorkspace : session.workspace = session.storage.save made session.storage := by
      rw [isWorkspace, isStorage]
      exact (Workspace.exchange_self _).symm
    have sameConnection : session.storage.connection = connection := by
      rw [isStorage]
      rfl
    have notLocked : session.storage.lock? = none := by rw [isStorage]; rfl
    obtain ⟨writes, _⟩ := Workspace.changeHindrance?_eq_none_iff.mp free
    have begins : Free ⟨session.storage, made⟩ := by
      constructor
      · rw [sameConnection, notLocked]
        exact Workspace.writeHindrance?_eq_none_iff.mp writes
      · rw [sameConnection, notLocked]
        exact othersLocks_of_changeHindrance? free
    have saved := begins.save settled.isFilePlace rfl
    rwa [← sameWorkspace] at saved
  · rw [isStorage]
    exact
      { found := found
        suits := suits_newTable location.table schema.fields
        areFields := AreFields.of_schema accepted checked
        readable := rfl
        writable := rfl
        committable := rfl }
  · rw [isWorkspace, isStorage, Workspace.save_eq_entries]
    rfl

theorem close_of_creates (creates : session.Creates) :
    session.storage.close = session.storage := by
  rcases creates with ⟨workspace, names, schema, text, policy, _, _, opens⟩
  rcases Storage.of_openTable opens with ⟨_, _, _, _, _, _, _, _, isStorage, _⟩
  rw [isStorage]
  rfl

/-- What a new table has and every statement keeps holds of the table of the session. -/
theorem HasCreated.exists_ready_and
    (kept : Table → Prop)
    (begins : ∀ name columns, kept (newTable name columns))
    (keeps : ∀ table changed, Storage.Ready.Becomes table changed → kept table → kept changed)
    (created : session.HasCreated) :
    ∃ table, session.Ready table ∧ kept table := by
  rcases created with ⟨start, operations, creates, rfl⟩
  rcases exists_ready_of_creates creates with ⟨name, columns, ready⟩
  have isKept := begins name columns
  have sound : start.Sound kept := by
    refine ⟨⟨_, ready, isKept⟩, _, ?_, isKept⟩
    rw [close_of_creates creates]
    exact ready.storage
  exact (sound.after keeps operations).seen

theorem HasCreated.exists_ready (created : session.HasCreated) :
    ∃ table, session.Ready table := by
  rcases created.exists_ready_and (fun _ => True) (fun _ _ => trivial) fun _ _ _ _ => trivial with
    ⟨table, ready, _⟩
  exact ⟨table, ready⟩

theorem HasCreated.perform
    (created : session.HasCreated)
    (operation : Storage.Operation) :
    (session.perform operation).2.HasCreated := by
  rcases created with ⟨start, operations, creates, rfl⟩
  refine ⟨start, operations ++ [operation], creates, ?_⟩
  rw [after, List.foldl_append]
  rfl

theorem HasCreated.identityName_notMem (created : session.HasCreated) :
    Field.identityName ∉ session.storage.schema.fields := by
  rcases created with ⟨start, operations, ⟨_, names, schema, _, _, accepted, _, opens⟩, rfl⟩
  rcases Storage.of_openTable opens with ⟨_, _, _, _, _, _, _, _, isStorage, _⟩
  have isSchema : start.storage.schema = schema := by rw [isStorage]; rfl
  refine after_induction
    (motive := fun session => Field.identityName ∉ session.storage.schema.fields)
    (fun session operation noIdentity => ?_) ?_ operations
  · rw [schema_perform]
    exact noIdentity
  · rw [isSchema]
    exact Schema.identityName_notMem accepted

/-! ## Databases in memory -/

/-- A table in memory. -/
def memoryLocation : Location where
  backend := .sqlite
  database := Location.memoryDatabase
  table := "t"

theorem isIdentifier_memoryLocation : Identifier.check memoryLocation.table = .ok () := by
  decide +kernel

/-- A connection to a database that nobody else has. -/
def ownConnection : Connection where
  place := none
  isReadOnly := false
  isShared := false
  isFrozen := false
  isReadOnly_of_isFrozen := fun frozen => frozen

/-- The session that begins with a new table in memory. -/
def inMemory (schema : Schema) (policy : AutoCommit) : Session where
  storage :=
    Storage.opened .empty memoryLocation isIdentifier_memoryLocation schema policy ownConnection
      ⟨[newTable "t" schema.fields], []⟩
  workspace := .empty

/-- Names with scores, which may be missing. -/
def scores : Schema :=
  ⟨["name", "score"], by decide +kernel⟩

/-- In memory there is room for a table with any columns that a table can have. -/
theorem creates_inMemory
    {names : List String}
    {schema : Schema}
    (accepted : Schema.ofNames names = .ok schema)
    (checked : Database.checkColumns "t" [] schema.fields = .ok ())
    (policy : AutoCommit) :
    (inMemory schema policy).Creates := by
  have parsed : Location.parse "sqlite://:memory::t" = .ok memoryLocation := by decide +kernel
  have connects : Storage.connect .empty memoryLocation = (.ok ownConnection, .empty) := rfl
  have provides :
      Storage.provideTable .empty ownConnection "t" schema.fields =
        .ok ⟨[newTable "t" schema.fields], []⟩ := by
    have named : Database.checkTableName "t" = .ok () := by decide
    have created :
        Database.empty.createTable "t" schema.fields = .ok ⟨[newTable "t" schema.fields], []⟩ := by
      rw [Database.createTable, named, Outcome.ok_bind]
      show Database.empty.addTable "t" schema.fields _ = _
      rw [Database.addTable, checked]
      rfl
    rw [Storage.provideTable, named, Outcome.ok_bind]
    show DatabaseFault.hinder none (Database.empty.createTable "t" schema.fields) = _
    rw [created]
    rfl
  refine ⟨.empty, names, schema, "sqlite://:memory::t", policy, accepted, ?_, ?_⟩
  · exact lacksTable_of_connect parsed connects rfl rfl
  · have named : memoryLocation.table = "t" := rfl
    simp only [Storage.openTable_eq parsed, connects, named, provides]
    rfl

end Session

end RecordStore
