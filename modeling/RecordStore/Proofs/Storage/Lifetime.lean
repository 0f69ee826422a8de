import RecordStore.Proofs.Storage.Partial

/-!
# Storages are opened and closed

A storage that is opened has in its file what was there, provided with its
table, and every other database in a file stays as it was.  If a storage cannot
be opened, or is closed, no database in a file changes at all.

Nobody stays connected who was not connected before.

Main statements: `Storage.provides_of_opens`, `Storage.FailsToOpen.database_eq` and
`Storage.database_disconnect`.
-/

namespace RecordStore

/-! ## Places on disk -/

namespace Path

/-- No path is shortened to a place in memory. -/
theorem isInMemory_shortened (path : String) : isInMemory (shortened path) = false := by
  have noEmptyName : "" ∉ shortened path := by
    have noneFirst : "" ∉ start path := by
      rw [start]
      split <;> decide
    rw [shortened]
    generalize start path = place at noneFirst
    induction pieces path generalizing place with
    | nil => exact noneFirst
    | cons part rest induction =>
        apply induction
        dsimp only
        split
        · exact noneFirst
        · next isName =>
            split
            · rw [parent]
              split
              · exact noneFirst
              · exact fun member => noneFirst (List.dropLast_subset place member)
            · intro member
              rcases List.mem_append.mp member with isKnown | isNew
              · exact noneFirst isKnown
              · rw [← List.mem_singleton.mp isNew] at isName
                exact isName rfl
  rw [isInMemory, beq_eq_false_iff_ne]
  exact fun isFirst => noEmptyName (List.mem_of_head? isFirst)

end Path

/-- The place of a file is one that is not in memory. -/
theorem Home.filePlace?_eq_some_iff {home : Home} {place : Path.Place} :
    home.filePlace? = some place ↔ home.place? = some place ∧ Path.isInMemory place = false := by
  cases home with
  | connection => simp [filePlace?, place?]
  | shared name | memoryFile name =>
      simp only [filePlace?, place?, reduceCtorEq, false_iff, not_and, Option.some.injEq]
      rintro rfl
      simp [Path.isInMemory, Path.inMemory]
  | file name =>
      simp only [filePlace?, place?, Option.some.injEq, iff_self_and]
      rintro rfl
      exact Path.isInMemory_shortened name

/-- Where a connection has its database depends on its name alone. -/
theorem Workspace.place_of_connect
    {workspace opened : Workspace}
    {name : String}
    {connection : Connection}
    (connects : workspace.connect name = (.ok connection, opened)) :
    ∃ address, Address.read name = .ok address ∧ connection.place = address.home.place? := by
  rcases of_connect connects with ⟨address, reached, _, isAddress, _, rfl, rfl⟩
  exact ⟨address, isAddress, (join_eq _ _).1⟩

/-! ## Tables that are provided -/

/-- A database has been provided with a table: it is as it was, or has one more without rows. -/
inductive Database.Provides (name : String) (known : Database) : Database → Prop where
  | same : Provides name known known
  | created
      {columns : List String}
      {provided : Database}
      (isMissing : known.table? name = none)
      (creates : known.createTable name columns = .ok provided) :
      Provides name known provided

/-- A database that is provided with a table has the rows that it had. -/
theorem Database.Provides.row?_eq
    {name : String}
    {known provided : Database}
    (provides : Provides name known provided)
    (table : String)
    (id : Int64) :
    provided.row? table id = known.row? table id := by
  cases provides with
  | same => rfl
  | created isMissing creates =>
      rw [row?, row?, (table?_of_createTable isMissing creates).2]
      cases known.table? table with
      | some found => rfl
      | none =>
          rw [Option.none_or]
          split <;> rfl

namespace Storage

variable {workspace after : Workspace} {storage : Storage} {place : Path.Place}

/-! ## Opening -/

theorem database_connect (workspace : Workspace) (location : Location) (place : Path.Place) :
    (connect workspace location).2.database place = workspace.database place := by
  rcases exists_connect_eq workspace location with ⟨reached, reaches, ⟨error, fails⟩ | tries⟩
  · rw [fails]
    exact reaches.database_eq place
  · rw [tries]
    exact (reached.database_connect location.database place).trans (reaches.database_eq place)

/-- Whoever could not connect has not joined anybody. -/
theorem shares_of_connect_eq_error
    {location : Location}
    {error : Error}
    (fails : connect workspace location = (.error error, after)) :
    after.shares = workspace.shares := by
  rcases exists_connect_eq workspace location with ⟨reached, reaches, ⟨own, failsHere⟩ | tries⟩
  · rw [← (Prod.mk.inj (failsHere.symm.trans fails)).2]
    exact reaches.shares_eq
  · rcases Prod.mk.inj (tries.symm.trans fails) with ⟨refuses, isAfter⟩
    rcases Outcome.mapError_eq_error_iff.mp refuses with ⟨fault, isFault, _⟩
    have unchanged : after = reached := Workspace.eq_of_connect_eq_error (Prod.ext isFault isAfter)
    rw [unchanged]
    exact reaches.shares_eq

theorem isAlone_of_connect
    (nobody : workspace.share? place = none)
    {location : Location}
    {connection : Connection}
    (connects : connect workspace location = (.ok connection, after)) :
    after.IsAlone connection place := by
  rcases of_connect connects with ⟨reached, fills, opens⟩
  refine Workspace.isAlone_of_connect ?_ opens
  rw [Workspace.share?_congr fills.shares_eq]
  exact nobody

theorem place_of_connect
    {location : Location}
    {connection : Connection}
    (connects : connect workspace location = (.ok connection, after)) :
    ∃ address, Address.read location.database = .ok address ∧
      connection.place = address.home.place? := by
  rcases of_connect connects with ⟨_, _, opens⟩
  exact Workspace.place_of_connect opens

/-- What a storage that cannot be opened leaves behind. -/
inductive FailsToOpen (workspace : Workspace) : Workspace → Prop where
  | refused : FailsToOpen workspace workspace
  | unconnected
      {location : Location}
      {error : Error}
      {made : Workspace}
      (fails : connect workspace location = (.error error, made)) :
      FailsToOpen workspace made
  | disconnected
      {location : Location}
      {connection : Connection}
      {made : Workspace}
      (connects : connect workspace location = (.ok connection, made)) :
      FailsToOpen workspace (made.disconnect connection)

theorem failsToOpen_of_openTable
    {schema : Schema}
    {text : String}
    {policy : AutoCommit}
    {error : Error}
    (fails : openTable workspace schema text policy = (.error error, after)) :
    FailsToOpen workspace after := by
  rw [openTable] at fails
  split at fails
  · cases fails
    exact .refused
  · split at fails
    · next connects =>
        cases fails
        exact .unconnected connects
    · next connects =>
        split at fails
        · cases fails
          exact .disconnected connects
        · cases fails

theorem failsToOpen_of_openExisting
    {text : String}
    {policy : AutoCommit}
    {error : Error}
    (fails : openExisting workspace text policy = (.error error, after)) :
    FailsToOpen workspace after := by
  rw [openExisting] at fails
  split at fails
  · cases fails
    exact .refused
  · split at fails
    · next connects =>
        cases fails
        exact .unconnected connects
    · next connects =>
        split at fails
        · cases fails
          exact .disconnected connects
        · split at fails
          · cases fails
            exact .disconnected connects
          · cases fails

namespace FailsToOpen

/-- All files with databases are as they were. -/
theorem database_eq
    (fails : FailsToOpen workspace after)
    (onDisk : Path.isInMemory place = false) :
    after.database place = workspace.database place := by
  cases fails with
  | refused => rfl
  | @unconnected location _ _ fails =>
      have connected := database_connect workspace location place
      rwa [fails] at connected
  | @disconnected location connection made connects =>
      have connected := database_connect workspace location place
      rw [connects] at connected
      exact (made.database_disconnect_of_onDisk connection onDisk).trans connected

/-- Nobody is connected who was not connected before. -/
theorem share?_eq_none
    (fails : FailsToOpen workspace after)
    (nobody : workspace.share? place = none) :
    after.share? place = none := by
  cases fails with
  | refused => exact nobody
  | unconnected fails =>
      rw [Workspace.share?_congr (shares_of_connect_eq_error fails)]
      exact nobody
  | disconnected connects => exact Workspace.share?_disconnect (isAlone_of_connect nobody connects)

end FailsToOpen

/-- A new storage has in its file what was there, provided with its table. -/
theorem provides_of_opens
    (opens : Session.Opens workspace ⟨storage, after⟩)
    (isPlace : storage.connection.place = some place) :
    ∃ known, workspace.database place = .ok known ∧
      Database.Provides storage.table known storage.committed := by
  rcases opens with ⟨schema, text, policy, opens⟩ | ⟨text, policy, opens⟩
  · rcases of_openTable opens with
      ⟨location, _, connection, made, database, _, connects, provides, isStorage, _⟩
    cases isStorage
    rcases Session.of_provideTable provides with ⟨known, reads, _, origin⟩
    have isKnown :=
      (unchanged_of_connect connects isPlace).1.symm.trans
        (Session.database_of_read isPlace reads)
    refine ⟨known, isKnown, ?_⟩
    rcases origin with ⟨_, same⟩ | ⟨isMissing, _, creates⟩
    · rw [same]
      exact .same
    · exact .created isMissing creates
  · rcases of_openExisting opens with
      ⟨location, _, connection, database, schema, _, connects, reads, _, isStorage⟩
    dsimp only at isStorage
    cases isStorage
    exact
      ⟨database,
        (unchanged_of_connect connects isPlace).1.symm.trans
          (Session.database_of_read isPlace reads),
        .same⟩

/-- Opening a storage leaves the databases at other places as they were. -/
theorem database_of_opens
    (opens : Session.Opens workspace ⟨storage, after⟩)
    (elsewhere : storage.connection.place ≠ some place) :
    after.database place = workspace.database place := by
  have isFilePlace := (Session.settled_of_opens opens).isFilePlace
  rcases opens with ⟨schema, text, policy, opens⟩ | ⟨text, policy, opens⟩
  · rcases of_openTable opens with
      ⟨location, _, connection, made, database, _, connects, _, isStorage, isWorkspace⟩
    cases isStorage
    have connected := database_connect workspace location place
    rw [connects] at connected
    have isWorkspace : after = made.save connection database := isWorkspace
    have elsewhere : connection.place ≠ some place := elsewhere
    rw [isWorkspace, Workspace.database_save_eq_ite isFilePlace,
      if_neg fun same => elsewhere same.1]
    exact connected
  · rcases of_openExisting opens with
      ⟨location, _, connection, database, schema, _, connects, _, _, isStorage⟩
    have connected := database_connect workspace location place
    rwa [connects] at connected

/-! ## Closing -/

/-- Closing a storage leaves all files with databases as they are. -/
theorem database_disconnect
    (storage : Storage)
    (workspace : Workspace)
    (onDisk : Path.isInMemory place = false) :
    (storage.disconnect workspace).database place = workspace.database place := by
  let closed := (storage.refresh workspace).close
  have kept := closed.database_save workspace (storage.refresh workspace) place
  have nothingSaved : workspace.save closed.connection closed.committed = workspace :=
    storage.save_refresh workspace
  rw [nothingSaved] at kept
  exact (Workspace.database_disconnect_of_onDisk _ closed.connection onDisk).trans kept

/-! ## The only connection -/

theorem isAlone_save
    (storage : Storage)
    (alone : workspace.IsAlone storage.connection place)
    (before : Storage) :
    (storage.save workspace before).IsAlone storage.connection place := by
  have saved :
      (workspace.save storage.connection storage.committed).IsAlone storage.connection place :=
    alone.congr (Workspace.share?_congr (workspace.shares_save _ _) place)
  refine .congr ?_ (Workspace.share?_congr Workspace.shares_exchange place)
  split
  · exact saved.setChanging _
  · split
    · exact saved.setChanging none
    · exact saved

/-- Where nobody was connected, a new storage has the only connection. -/
theorem isAlone_of_opens
    (opens : Session.Opens workspace ⟨storage, after⟩)
    (nobody : workspace.share? place = none) :
    after.IsAlone storage.connection place := by
  rcases opens with ⟨schema, text, policy, opens⟩ | ⟨text, policy, opens⟩
  · rcases of_openTable opens with
      ⟨location, _, connection, made, database, _, connects, _, isStorage, isWorkspace⟩
    cases isStorage
    have isWorkspace : after = made.save connection database := isWorkspace
    rw [isWorkspace]
    exact
      (isAlone_of_connect nobody connects).congr
        (Workspace.share?_congr (made.shares_save _ _) place)
  · rcases of_openExisting opens with ⟨location, _, _, _, _, _, connects, _, _, isStorage⟩
    dsimp only at isStorage connects ⊢
    cases isStorage
    exact isAlone_of_connect nobody connects

/-- When the storage with the only connection is closed, nobody is connected. -/
theorem share?_disconnect
    (storage : Storage)
    (alone : workspace.IsAlone storage.connection place) :
    (storage.disconnect workspace).share? place = none := by
  let closed := (storage.refresh workspace).close
  have saved :
      (closed.save workspace (storage.refresh workspace)).IsAlone closed.connection place :=
    closed.isAlone_save alone _
  exact Workspace.share?_disconnect saved

end Storage

end RecordStore
