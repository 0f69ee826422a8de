import RecordStore.Proofs.Storage.EveryPut
import RecordStore.Storage.Turn

/-!
# Several records at a time

Storing several records checks them all and then stores one after the other.
Single puts do the same as long as nothing is lost between them: what a put
has saved in the workspace is what the next one finds there.  That holds
because a put that succeeds finds nothing in its way, and leaves nothing in
the way of the next.

Main statement: `Session.putMany_is_puts_in_turn`.
-/

namespace RecordStore

namespace Workspace

variable {workspace : Workspace} {connection : Connection}

/-- Where a database is saved it is found, if there was one that may change; else all stays. -/
theorem database_save_eq_ite
    (isFilePlace : ∀ place, connection.place = some place → Path.IsFilePlace place)
    (database : Database)
    (place : Path.Place) :
    (workspace.save connection database).database place =
      if connection.place = some place ∧ connection.isFrozen = false ∧
          (workspace.database place).toBool = true then
        .ok database
      else
        workspace.database place := by
  cases isPlace : connection.place with
  | none => simp [save, isPlace]
  | some own =>
      by_cases same : own = place
      · subst same
        cases reads : workspace.database own with
        | error fault => simp [save, isPlace, reads, Except.toBool]
        | ok known =>
            cases frozen : connection.isFrozen with
            | true => simp [save, isPlace, reads, frozen]
            | false =>
                have unchanged : connection.isFrozen = true → database = known := by
                  simp [frozen]
                have saved := database_save isPlace (isFilePlace own isPlace) reads unchanged
                simpa [Except.toBool] using saved
      · rw [if_neg (by simp [same])]
        rcases workspace.save_eq_or isPlace database with kept | ⟨_, _, written⟩
        · rw [kept]
        · rw [written, Workspace.database, entry?_setEntry_other (Ne.symm same)]
          rfl

/-- What was saved first makes no difference once something else is saved. -/
theorem database_save_of_saved
    (isFilePlace : ∀ place, connection.place = some place → Path.IsFilePlace place)
    {between : Workspace}
    {first : Database}
    {place : Path.Place}
    (saved : between.database place = (workspace.save connection first).database place)
    (second : Database) :
    (between.save connection second).database place =
      (workspace.save connection second).database place := by
  rw [database_save_eq_ite isFilePlace, database_save_eq_ite isFilePlace, saved,
    database_save_eq_ite isFilePlace]
  by_cases mayChange :
      connection.place = some place ∧ connection.isFrozen = false ∧
        (workspace.database place).toBool = true
  · simp only [if_pos mayChange]
    exact if_pos ⟨mayChange.1, mayChange.2.1, rfl⟩
  · simp only [if_neg mayChange]

end Workspace

namespace Storage

variable {storage : Storage} {workspace : Workspace}

/-- Nothing hinders a storage from writing that has stored a record. -/
theorem writeHindrance_of_put
    {record : Record}
    {id : Int64}
    (succeeds : (storage.put record).1 = .ok id) :
    storage.writeHindrance = none := by
  have puts := storage.puts_put record
  generalize storage.put record = result at puts succeeds
  cases puts with
  | stored fits stores => exact (of_storeRecord fits stores).1
  | _ => contradiction

theorem putEach_of_error
    {record : Record}
    {error : Error}
    {after : Storage}
    (puts : storage.put record = (.error error, after))
    (rest : List Record) :
    storage.putEach (record :: rest) = (.error error, after) := by
  rw [putEach, puts]

theorem putEach_of_ok
    {record : Record}
    {id : Int64}
    {after : Storage}
    (puts : storage.put record = (.ok id, after))
    (rest : List Record) :
    storage.putEach (record :: rest) =
      ((after.putEach rest).1.map (id :: ·), (after.putEach rest).2) := by
  rw [putEach, puts]
  dsimp only
  rcases after.putEach rest with ⟨error | ids, last⟩ <;> rfl

/-- The first record that does not fit the schema is the one that is complained about. -/
theorem checkAll_append
    {schema : Schema}
    {earlier later : List Record}
    {record : Record}
    {fault : RecordFault}
    (fit : ∀ other ∈ earlier, schema.check other = .ok ())
    (misfit : schema.check record = .error fault) :
    checkAll schema (earlier ++ record :: later) = .error fault := by
  induction earlier with
  | nil =>
      rw [List.nil_append, checkAll, misfit]
      rfl
  | cons first rest induction =>
      rw [List.cons_append, checkAll, fit first List.mem_cons_self]
      exact induction fun other member => fit other (List.mem_cons_of_mem first member)

theorem checkAll_eq_ok
    {schema : Schema}
    {records : List Record}
    (fit : ∀ record ∈ records, schema.check record = .ok ()) :
    checkAll schema records = .ok () := by
  induction records with
  | nil => rfl
  | cons first rest induction =>
      rw [checkAll, fit first List.mem_cons_self]
      exact induction fun record member => fit record (List.mem_cons_of_mem first member)

theorem database_save
    (storage : Storage)
    (workspace : Workspace)
    (before : Storage)
    (place : Path.Place) :
    (storage.save workspace before).database place =
      (workspace.save storage.connection storage.committed).database place :=
  Workspace.database_congr (storage.entries_save workspace before) place

/-- What a storage has saved it does not learn anew. -/
theorem committed_refresh_save
    (isFilePlace : ∀ place, storage.connection.place = some place → Path.IsFilePlace place)
    (workspace : Workspace)
    (before : Storage) :
    (storage.refresh (storage.save workspace before)).committed = storage.committed := by
  simp only [refresh]
  split
  · rfl
  · next notFrozen =>
      rw [Bool.not_eq_true] at notFrozen
      cases isPlace : storage.connection.place with
      | none => rfl
      | some place =>
          rw [Option.map_some, storage.database_save, Workspace.database_save_eq_ite isFilePlace]
          split
          · next database found =>
              split at found
              · exact (Except.ok.inj (Option.some.inj found)).symm
              · next kept =>
                  rw [Option.some.inj found] at kept
                  exact absurd ⟨isPlace, notFrozen, rfl⟩ kept
          · rfl

/-- A storage that would learn nothing new stays as it is. -/
theorem refresh_eq_self
    (sameCommitted : (storage.refresh workspace).committed = storage.committed)
    (sameReading :
      workspace.readHindrance? storage.connection storage.lock? storage.table =
        storage.readHindrance)
    (sameWriting :
      workspace.writeHindrance? storage.connection storage.lock? = storage.writeHindrance)
    (sameCommitting :
      workspace.commitHindrance? storage.connection storage.lock? = storage.commitHindrance)
    (sameMemory : workspace.isCramped = storage.isCramped) :
    storage.refresh workspace = storage := by
  calc
    storage.refresh workspace =
        { storage with
          committed := (storage.refresh workspace).committed
          readHindrance := workspace.readHindrance? storage.connection storage.lock? storage.table
          writeHindrance := workspace.writeHindrance? storage.connection storage.lock?
          commitHindrance := workspace.commitHindrance? storage.connection storage.lock?
          isCramped := workspace.isCramped } := rfl
    _ = storage := by rw [sameCommitted, sameReading, sameWriting, sameCommitting, sameMemory]

/-- What a storage has learnt from a workspace is there already. -/
theorem save_refresh (storage : Storage) (workspace : Workspace) :
    workspace.save storage.connection (storage.refresh workspace).committed = workspace := by
  cases isPlace : storage.connection.place with
  | none => simp only [Workspace.save, isPlace]
  | some place =>
      cases reads : workspace.database place with
      | error fault => simp only [Workspace.save, isPlace, reads]
      | ok database =>
          cases frozen : storage.connection.isFrozen with
          | true => simp [Workspace.save, isPlace, reads, frozen]
          | false => simp [Workspace.save, refresh, isPlace, reads, frozen]

/-- A storage that has done nothing since it was refreshed goes on with what it is. -/
theorem refresh_save_refresh (storage : Storage) (workspace : Workspace) :
    (storage.refresh workspace).refresh ((storage.refresh workspace).save workspace storage) =
      storage.refresh workspace := by
  have again : (storage.refresh workspace).refresh workspace = storage.refresh workspace := by
    refine refresh_eq_self ?_ rfl rfl rfl rfl
    simp only [refresh]
    split
    · rfl
    · split <;> simp_all
  have sameLock : (storage.refresh workspace).lock? = storage.lock? := rfl
  have sameWriting : (storage.refresh workspace).isWriting = storage.isWriting := rfl
  have nothingSaved :
      workspace.save (storage.refresh workspace).connection (storage.refresh workspace).committed =
        workspace :=
    storage.save_refresh workspace
  cases isWriting : storage.isWriting with
  | false =>
      have unchanged : (storage.refresh workspace).save workspace storage = workspace := by
        rw [save, sameLock, Workspace.exchange_self, sameWriting, isWriting, nothingSaved]
        rfl
      rw [unchanged, again]
  | true =>
      have announced :
          (storage.refresh workspace).save workspace storage =
            workspace.setChanging storage.connection (some storage.table) := by
        rw [save, sameLock, Workspace.exchange_self, sameWriting, isWriting, nothingSaved]
        rfl
      have sameDatabase :
          (workspace.setChanging storage.connection (some storage.table)).database =
            workspace.database := by
        funext place
        exact Workspace.database_congr (workspace.entries_setChanging _ _) place
      obtain ⟨sameReading, sameWriting, sameCommitting⟩ :=
        workspace.hindrances_setChanging storage.connection (some storage.table) isWriting
          storage.table
      rw [announced]
      refine refresh_eq_self ?_ sameReading sameWriting sameCommitting ?_
      · have committed := congrArg Storage.committed again
        rw [refresh] at committed ⊢
        rw [sameDatabase]
        exact committed
      · rw [Workspace.setChanging_eq_shares]
        rfl

end Storage

namespace Session

variable {session : Session}

/-- The database of the session is where a file can stand. -/
def IsPlaced (session : Session) : Prop :=
  ∀ place, session.storage.connection.place = some place → Path.IsFilePlace place

/-- What a session that can write has come to is what it goes on with. -/
theorem current_save
    (isPlaced : session.IsPlaced)
    (free : session.current.writeHindrance = none)
    {after : Storage}
    (continues : Storage.Continues session.current after) :
    current ⟨after, after.save session.workspace session.storage⟩ = after := by
  have sameConnection : after.connection = session.storage.connection := continues.connection_eq
  have writable := Workspace.writeHindrance?_eq_none_iff.mp free
  have writableAfter := isWritable_save writable sameConnection isPlaced
  refine Storage.refresh_eq_self ?_ ?_ ?_ ?_ ?_
  · exact
      after.committed_refresh_save (sameConnection ▸ isPlaced) session.workspace session.storage
  · have readable : after.readHindrance = none :=
      continues.readHindrance_eq.trans (writable.readHindrance?_eq session.storage.table)
    exact (writableAfter.readHindrance?_eq after.table).trans readable.symm
  · exact
      (Workspace.writeHindrance?_eq_none_iff.mpr writableAfter).trans
        (continues.writeHindrance_eq.trans free).symm
  · -- A commit waits for the same others as before, and the disk is as full as it was.
    have sameSpace :
        (after.save session.workspace session.storage).lacksSpace after.connection =
          session.workspace.lacksSpace session.storage.connection := by
      rw [writable.hasSpace]
      exact writableAfter.hasSpace
    rw [continues.commitHindrance_eq]
    show Workspace.commitHindrance? _ _ _ = Workspace.commitHindrance? _ _ _
    rw [Workspace.commitHindrance?, Workspace.commitHindrance?, Workspace.isBusyForCommit,
      Workspace.isBusyForCommit, othersLocks_of_isWritable writable sameConnection, sameSpace]
  · rw [Storage.save_eq_known]
    exact continues.isCramped_eq.symm

/-- The session after an operation that has led to a storage. -/
def advance (session : Session) (after : Storage) : Session :=
  ⟨after, after.save session.workspace session.storage⟩

namespace Alike

theorem refl (session : Session) : Alike session session :=
  ⟨rfl, fun _ => rfl⟩

theorem trans
    {first second third : Session}
    (left : Alike first second)
    (right : Alike second third) :
    Alike first third :=
  ⟨left.current_eq.trans right.current_eq,
    fun other => (left.seen_eq other).trans (right.seen_eq other)⟩

/-- An operation that leaves the storage as it is leaves the session alike. -/
theorem advance_current (session : Session) : Alike (session.advance session.current) session := by
  refine ⟨session.storage.refresh_save_refresh session.workspace, fun other => ?_⟩
  apply other.view_refresh_of_database
  intro place
  refine (session.current.database_save _ _ place).trans ?_
  exact congrArg (Workspace.database · place) (session.storage.save_refresh session.workspace)

/-- What is saved in between makes no difference. -/
theorem advance_advance
    (isPlaced : session.IsPlaced)
    (writable : session.current.writeHindrance = none)
    {middle last : Storage}
    (first : Storage.Continues session.current middle)
    (second : Storage.Continues middle last) :
    Alike (session.advance last) ((session.advance middle).advance last) := by
  have resumed : (session.advance middle).current = middle :=
    current_save isPlaced writable first
  have sameConnection : middle.connection = session.storage.connection := first.connection_eq
  have lastConnection : last.connection = middle.connection := second.connection_eq
  constructor
  · have direct : (session.advance last).current = last :=
      current_save isPlaced writable (first.trans second)
    have indirect : ((session.advance middle).advance last).current = last := by
      apply current_save
      · exact fun place isPlace => isPlaced place (sameConnection ▸ isPlace)
      · rw [resumed]
        exact first.writeHindrance_eq.trans writable
      · rw [resumed]
        exact second
    rw [direct, indirect]
  · intro other
    apply other.view_refresh_of_database
    intro place
    have saved := middle.database_save session.workspace session.storage place
    rw [← lastConnection] at saved
    have isFilePlace (own : Path.Place) (isPlace : last.connection.place = some own) :
        Path.IsFilePlace own := by
      rw [lastConnection, sameConnection] at isPlace
      exact isPlaced own isPlace
    calc
      (session.advance last).workspace.database place =
          (session.workspace.save last.connection last.committed).database place :=
        last.database_save _ _ place
      _ = ((session.advance middle).workspace.save last.connection last.committed).database
            place :=
        (Workspace.database_save_of_saved isFilePlace saved last.committed).symm
      _ = ((session.advance middle).advance last).workspace.database place :=
        (last.database_save _ _ place).symm

end Alike

/-! ## Several records -/

theorem putInTurn_of_error
    {record : Record}
    {error : Error}
    {after : Session}
    (puts : session.put record = (.error error, after))
    (rest : List Record) :
    session.putInTurn (record :: rest) = (.error error, after) := by
  rw [putInTurn, puts]

theorem putInTurn_of_ok
    {record : Record}
    {id : Int64}
    {after : Session}
    (puts : session.put record = (.ok id, after))
    (rest : List Record) :
    session.putInTurn (record :: rest) =
      ((after.putInTurn rest).1.map (id :: ·), (after.putInTurn rest).2) := by
  rw [putInTurn, puts]
  dsimp only
  rcases after.putInTurn rest with ⟨error | ids, last⟩ <;> rfl

/-- A single put does in the workspace what it does to the storage. -/
theorem put_eq
    {record : Record}
    {outcome : Except Error Int64}
    {after : Storage}
    (puts : session.current.put record = (outcome, after)) :
    session.put record = (outcome, session.advance after) := by
  show ((session.current.put record).1, session.advance (session.current.put record).2) = _
  rw [puts]

/-- Single puts do what storing the records one after the other does. -/
theorem putInTurn_eq_putEach
    (isPlaced : session.IsPlaced)
    (records : List Record) :
    (session.putInTurn records).1 = (session.current.putEach records).1 ∧
      Alike (session.advance (session.current.putEach records).2)
        (session.putInTurn records).2 := by
  induction records generalizing session with
  | nil => exact ⟨rfl, .advance_current session⟩
  | cons record rest induction =>
      have continues := session.current.continues_put record
      rcases puts : session.current.put record with ⟨error | id, middle⟩
      · rw [putInTurn_of_error (put_eq puts), Storage.putEach_of_error puts]
        exact ⟨rfl, .refl _⟩
      · replace continues : Storage.Continues session.current middle := by
          rwa [puts] at continues
        rw [putInTurn_of_ok (put_eq puts), Storage.putEach_of_ok puts]
        have writable : session.current.writeHindrance = none :=
          Storage.writeHindrance_of_put (congrArg Prod.fst puts)
        have placed : (session.advance middle).IsPlaced :=
          fun place isPlace => isPlaced place (continues.connection_eq ▸ isPlace)
        have resumed : (session.advance middle).current = middle :=
          current_save isPlaced writable continues
        rcases induction placed with ⟨sameOutcome, alike⟩
        rw [resumed] at sameOutcome alike
        refine ⟨congrArg (Except.map (id :: ·)) sameOutcome, ?_⟩
        have between :=
          Alike.advance_advance isPlaced writable continues
            (middle.continues_putEach rest)
        exact between.trans alike

/-- Whatever happens to a session, its connection is the one that it began with. -/
theorem Reaches.connection_eq
    {asks : Session → Storage.Operation → Prop}
    {changes : Session → Workspace → Prop}
    {start : Session}
    (reaches : start.Reaches asks changes session) :
    session.storage.connection = start.storage.connection := by
  induction reaches with
  | start => rfl
  | @asked session operation _ _ same =>
      exact (session.current.continues_perform operation).connection_eq.trans same
  | changed _ _ same => exact same

theorem Reaches.isPlaced
    {asks : Session → Storage.Operation → Prop}
    {changes : Session → Workspace → Prop}
    {workspace : Workspace}
    {start : Session}
    (opens : Opens workspace start)
    (reaches : start.Reaches asks changes session) :
    session.IsPlaced := by
  intro place isPlace
  rw [reaches.connection_eq] at isPlace
  exact (settled_of_opens opens).isFilePlace place isPlace

theorem check_eq_unknownField
    {schema : Schema}
    {record : Record}
    {name : String}
    (unknown : record.fields.names.find? (fun field => !schema.contains field) = some name) :
    schema.check record = .error (.unknownField name schema.fields) := by
  rw [Schema.check, unknown]

/--
Storing several records is refused because of the first of them that has a
field outside the schema, and then nothing has happened.  Otherwise it is
storing each of them by a put of its own, up to the first that fails: with the
same outcome, and with sessions that are alike afterwards.
-/
theorem putMany_is_puts_in_turn
    {workspace : Workspace}
    {start : Session}
    (opens : Opens workspace start)
    (reaches : start.ReachesFreely session)
    (records : List Record) :
    (∀ earlier record later name,
      records = earlier ++ record :: later →
        (∀ other ∈ earlier, ∀ field ∈ other.fields.names,
          field ∈ session.storage.schema.fields) →
          record.fields.names.find? (fun field => !session.storage.schema.contains field) =
              some name →
            (session.perform (.putMany records)).1 =
                .error (.record (.unknownField name session.storage.schema.fields)) ∧
              Alike (session.perform (.putMany records)).2 session) ∧
      ((∀ record ∈ records, ∀ field ∈ record.fields.names,
          field ∈ session.storage.schema.fields) →
        (session.perform (.putMany records)).1 = (session.putInTurn records).1.map .ids ∧
          Alike (session.perform (.putMany records)).2 (session.putInTurn records).2) := by
  have performed (outcome : Except Error (List Int64)) (after : Storage)
      (puts : session.current.putMany records = (outcome, after)) :
      session.perform (.putMany records) =
        (outcome.map Storage.Outcome.ids, session.advance after) := by
    show ((session.current.putMany records).1.map Storage.Outcome.ids,
      session.advance (session.current.putMany records).2) = _
    rw [puts]
  have sameSchema : session.current.schema = session.storage.schema := rfl
  constructor
  · intro earlier record later name isList fit unknown
    have misfits :
        Storage.checkAll session.storage.schema records =
          .error (.unknownField name session.storage.schema.fields) := by
      rw [isList]
      apply Storage.checkAll_append
      · exact fun other member => (Storage.check_eq_ok_iff _ other).mpr (fit other member)
      · exact check_eq_unknownField unknown
    have refused :
        session.current.putMany records =
          (.error (.record (.unknownField name session.storage.schema.fields)),
            session.current) := by
      rw [Storage.putMany, sameSchema, misfits]
    rw [performed _ _ refused]
    exact ⟨rfl, .advance_current session⟩
  · intro fit
    have accepted : Storage.checkAll session.storage.schema records = .ok () :=
      Storage.checkAll_eq_ok fun record member =>
        (Storage.check_eq_ok_iff _ record).mpr (fit record member)
    have stored :
        session.current.putMany records =
          ((session.current.putEach records).1, (session.current.putEach records).2) := by
      rw [Storage.putMany, sameSchema, accepted]
    rcases putInTurn_eq_putEach (reaches.isPlaced opens) records with ⟨sameOutcome, alike⟩
    rw [performed _ _ stored, sameOutcome]
    exact ⟨rfl, alike⟩

/-- A record with a field that no table of names has. -/
def aged : Record :=
  ⟨none, .ofList [("age", .integer 36), ("name", .text "Bob")]⟩

/-- One unknown field keeps all records out; a record that is missing only ends the puts. -/
theorem unknown_field_keeps_all_out :
    (names.perform (.putMany [person "Ada", aged])).1 =
        .error (.record (.unknownField "age" ["name"])) ∧
      Alike (names.perform (.putMany [person "Ada", aged])).2 names ∧
        (names.perform (.putMany [person "Ada", stranger, person "Eve"])).1 =
            .error (.recordNotFound 9) ∧
          Alike (names.perform (.putMany [person "Ada", stranger, person "Eve"])).2
            (names.putInTurn [person "Ada", stranger, person "Eve"]).2 := by
  have refused :=
    (putMany_is_puts_in_turn opens_names .start [person "Ada", aged]).1 [person "Ada"] aged []
      "age" rfl (by decide +kernel) (by decide +kernel)
  have schema : names.storage.schema = nameSchema := by decide +kernel
  rw [schema] at refused
  have stored :=
    (putMany_is_puts_in_turn opens_names .start [person "Ada", stranger, person "Eve"]).2
      (by decide +kernel)
  have misses : (names.putInTurn [person "Ada", stranger, person "Eve"]).1 =
      .error (.recordNotFound 9) :=
    eq_error_of_missingId? (by decide +kernel)
  refine ⟨refused.1, refused.2, ?_, stored.2⟩
  rw [stored.1, misses]
  rfl

end Session

end RecordStore
