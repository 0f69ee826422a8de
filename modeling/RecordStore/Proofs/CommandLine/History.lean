import RecordStore.Proofs.CommandLine.Kept
import RecordStore.Proofs.Database.Finite

/-!
# Files with a table that a put has created

A put with fields creates a table that is missing.  From then on, whatever the
program is asked to do, the table keeps its columns and holds finite values,
its file is at rest, and the location goes on to be one at which records with
these fields can be written.

Main statement: `CommandLine.HasHistory.keeps`.
-/

namespace RecordStore

/-- Statements leave a table spellable. -/
theorem Database.isKept_hasSpellable (name : String) (fields : List String) :
    IsKept fun database => database.HasSpellable name fields where
  create := fun has isMissing creates => has.of_createTable isMissing creates
  delete := fun has deletes => has.of_delete deletes
  store := fun has isFinite stores =>
    match stores with
    | .added _ inserts _ => has.of_insertCells isFinite inserts
    | .leftOut .. => has
    | .overwritten _ updates _ => has.of_update isFinite updates

/-! ## Locations for records -/

/-- At a location whose database is in a file a table for a schema can be created and changed. -/
structure Location.Hosts (location : Location) (place : Path.Place) (schema : Schema) : Prop where
  home :
    ∃ address, Address.read location.database = .ok address ∧
      address.home.filePlace? = some place ∧ (Connection.ofAddress address).isReadOnly = false
  journal :
    ((Path.journal place).getLast?.any fun name => Path.maximalName < name.utf8ByteSize) = false
  named : Database.checkTableName location.table = .ok ()
  fields : AreFields schema.fields ∧ Schema.ofNames schema.fields = .ok schema

namespace Location.Hosts

variable {location : Location} {place : Path.Place} {schema : Schema}

theorem onDisk (hosts : location.Hosts place schema) : Path.isInMemory place = false := by
  rcases hosts.home with ⟨_, _, isFile, _⟩
  exact (Home.filePlace?_eq_some_iff.mp isFile).2

theorem noIdentity (hosts : location.Hosts place schema) :
    Field.identityName ∉ schema.fields :=
  Schema.identityName_notMem hosts.fields.2

theorem hasField (hosts : location.Hosts place schema) : schema.fields ≠ [] :=
  (Schema.fields_of_ofNames hosts.fields.2 hosts.noIdentity).2

end Location.Hosts

namespace Storage

/-- A connection that finds nobody at its place is what its address asks for. -/
theorem connection_of_connect
    {workspace opened : Workspace}
    {location : Location}
    {connection : Connection}
    (connects : connect workspace location = (.ok connection, opened))
    {place : Path.Place}
    (isPlace : connection.place = some place)
    (nobody : workspace.share? place = none) :
    ∃ address, Address.read location.database = .ok address ∧
      connection = .ofAddress address := by
  rcases of_connect connects with ⟨reached, fills, opens⟩
  rw [← Workspace.share?_congr fills.shares_eq] at nobody
  exact Workspace.connection_of_connect opens isPlace nobody

/-- Where a missing table was created, its location hosts it, and the table is spellable. -/
theorem hosts_of_openTable
    {workspace opened : Workspace}
    {names : List String}
    {schema : Schema}
    (accepted : Schema.ofNames names = .ok schema)
    {text : String}
    {policy : AutoCommit}
    {storage : Storage}
    (opens : openTable workspace schema text policy = (.ok storage, opened))
    {place : Path.Place}
    (isPlace : storage.connection.place = some place)
    (onDisk : Path.isInMemory place = false)
    (nobody : workspace.share? place = none)
    {known : Database}
    (holds : workspace.database place = .ok known)
    (isMissing : known.table? storage.table = none) :
    storage.location.Hosts place schema ∧
      storage.committed.HasSpellable storage.table schema.fields := by
  rcases of_openTable opens with
    ⟨location, _, connection, made, database, parsed, connects, provides, rfl, _⟩
  rcases Session.of_provideTable provides with ⟨found, reads, allowed, origin⟩
  have isKnown : made.database place = .ok known :=
    (unchanged_of_connect connects isPlace).1.trans holds
  cases isKnown.symm.trans (Session.database_of_read isPlace reads)
  rcases origin with ⟨isThere, _⟩ | ⟨_, free, creates⟩
  · rw [show known.table? location.table = none from isMissing] at isThere
    contradiction
  · rcases Session.of_createTable isMissing creates with ⟨checked, isNew, _⟩
    have writable := Workspace.writeHindrance?_eq_none_iff.mp
      (Workspace.changeHindrance?_eq_none_iff.mp free).1
    rcases connection_of_connect connects isPlace nobody with ⟨address, isAddress, rfl⟩
    have areFields := AreFields.of_schema accepted checked
    have shortJournal := writable.hasJournal place isPlace
    simp only [Workspace.lacksJournal, onDisk, Bool.not_false, Bool.true_and,
      Bool.or_eq_false_iff] at shortJournal
    constructor
    · exact
        { home :=
            ⟨address, isAddress, Home.filePlace?_eq_some_iff.mpr ⟨isPlace, onDisk⟩,
              writable.notReadOnly⟩
          journal := shortJournal.2
          named := allowed
          fields := ⟨areFields, Schema.ofNames_fields accepted⟩ }
    · exact
        ⟨_, isNew, Session.suits_newTable _ _, fun _ member => absurd member List.not_mem_nil⟩

end Storage

namespace CommandLine

/-! ## Histories -/

/-- A table of a file was created by a put for a schema, and the program alone has changed it. -/
inductive HasHistory
    (location : Location)
    (place : Path.Place)
    (schema : Schema) :
    Workspace → Prop where
  | created
      {arguments : List String}
      {request : Request}
      (asked : Request.read arguments = .ok request)
      {fields : Option String}
      {policy : Option AutoCommit}
      {texts : List String}
      (isPut : request.task = .put fields policy texts)
      {workspace : Workspace}
      {settings : Settings}
      (discovers : Settings.discover workspace request.settings Path.here = .ok settings)
      (isSchema : Context.schema ⟨request.uri, settings⟩ fields = .ok (some schema))
      (addresses : request.Addresses workspace location place)
      (atRest : workspace.IsAtRest place)
      {known : Database}
      (holds : workspace.database place = .ok known)
      (isMissing : known.table? location.table = none)
      {input : String}
      (isThere :
        (run arguments input workspace).2.HasAt place fun database =>
          (database.table? location.table).isSome = true) :
      HasHistory location place schema (run arguments input workspace).2
  | ran
      {workspace : Workspace}
      (reached : HasHistory location place schema workspace)
      (arguments : List String)
      (input : String) :
      HasHistory location place schema (run arguments input workspace).2
  | changed
      {workspace other : Workspace}
      (reached : HasHistory location place schema workspace)
      (same : other.database place = workspace.database place)
      (atRest : other.IsAtRest place) :
      HasHistory location place schema other

variable {location : Location} {place : Path.Place} {schema : Schema} {workspace : Workspace}

/-- Whoever has a schema has read it from names. -/
theorem Context.exists_ofNames
    {context : Context}
    {fields : Option String}
    (isSchema : context.schema fields = .ok (some schema)) :
    ∃ names, Schema.ofNames names = .ok schema := by
  rw [Context.schema.eq_def] at isSchema
  split at isSchema
  · rw [Settings.schema] at isSchema
    split at isSchema
    · cases isSchema
    · split at isSchema
      · next accepted =>
          cases isSchema
          exact ⟨_, accepted⟩
      · cases isSchema
  · split at isSchema
    · next accepted =>
        cases isSchema
        exact ⟨_, accepted⟩
    · cases isSchema

theorem Context.openStorage_of_schema
    {context : Context}
    {uri : String}
    (isLocation : context.location = .ok uri)
    {fields : Option String}
    (isSchema : context.schema fields = .ok (some schema))
    (workspace : Workspace)
    (policy : Option AutoCommit) :
    context.openStorage workspace fields policy =
      Storage.openTable workspace schema uri (policy.getD context.settings.policy) := by
  simp only [openStorage, isLocation, isSchema]

/-- What holds of a file with a table that a put has created. -/
structure Keeps
    (workspace : Workspace)
    (location : Location)
    (place : Path.Place)
    (schema : Schema) :
    Prop where
  hosts : location.Hosts place schema
  atRest : workspace.IsAtRest place
  has : workspace.HasAt place fun database => database.HasSpellable location.table schema.fields

/-- A put that has created its table leaves it spellable. -/
theorem keeps_of_created
    {arguments : List String}
    {request : Request}
    (asked : Request.read arguments = .ok request)
    {fields : Option String}
    {policy : Option AutoCommit}
    {texts : List String}
    (isPut : request.task = .put fields policy texts)
    {settings : Settings}
    (discovers : Settings.discover workspace request.settings Path.here = .ok settings)
    (isSchema : Context.schema ⟨request.uri, settings⟩ fields = .ok (some schema))
    (addresses : request.Addresses workspace location place)
    (atRest : workspace.IsAtRest place)
    {known : Database}
    (holds : workspace.database place = .ok known)
    (isMissing : known.table? location.table = none)
    {input : String}
    (isThere :
      (run arguments input workspace).2.HasAt place fun database =>
        (database.table? location.table).isSome = true) :
    Keeps (run arguments input workspace).2 location place schema := by
  have onDisk := addresses.onDisk
  have atRestAfter := atRest_run arguments input atRest
  have lacks {after : Workspace} (same : after.database place = workspace.database place) :
      ¬ after.HasAt place fun database => (database.table? location.table).isSome = true := by
    rintro ⟨database, isDatabase, hasTable⟩
    cases isDatabase.symm.trans (same.trans holds)
    rw [isMissing] at hasTable
    contradiction
  have isRun := congrArg Prod.snd (run_of_read asked input workspace)
  rw [Request.run_of_discover discovers, isPut] at isRun
  dsimp only at isRun
  rw [isRun] at isThere atRestAfter ⊢
  cases reads : readRecords (if texts.isEmpty then filledLines input else texts) with
  | error error =>
      rw [perform_put_of_error reads] at isThere
      exact absurd isThere (lacks rfl)
  | ok records =>
      rw [perform_put_of_ok reads] at isThere atRestAfter ⊢
      rcases opens : Context.openStorage ⟨request.uri, settings⟩ workspace fields policy with
        ⟨error | storage, opened⟩
      · rw [Context.withStorage_of_error opens] at isThere
        have same := (Context.failsToOpen_of_openStorage opens).database_eq onDisk
        exact absurd isThere (lacks same)
      · rcases addresses.storage_eq discovers opens with ⟨rfl, isPlace⟩
        rcases (Context.of_openStorage opens).2.2 with ⟨uri, _, isLocation, _⟩
        rcases Context.exists_ofNames isSchema with ⟨names, accepted⟩
        have opensTable := (Context.openStorage_of_schema isLocation isSchema _ _).symm.trans opens
        rcases
            Storage.hosts_of_openTable accepted opensTable isPlace onDisk atRest.nobody holds
              isMissing with
          ⟨hosts, committed⟩
        have leaves :=
          leaves_putRecords (Database.isKept_hasSpellable storage.table schema.fields)
            (isFinite_of_readRecords reads)
        exact
          { hosts := hosts
            atRest := atRestAfter
            has :=
              Context.hasAt_of_opens opens (worksByStages_putRecords records) leaves onDisk isPlace
                committed }

/-- Whatever has happened to a table that a put has created, it is spellable. -/
theorem HasHistory.keeps
    (history : HasHistory location place schema workspace) :
    Keeps workspace location place schema := by
  induction history with
  | created asked isPut discovers isSchema addresses atRest holds isMissing isThere =>
      exact
        keeps_of_created asked isPut discovers isSchema addresses atRest holds isMissing isThere
  | ran _ arguments input keeps =>
      exact
        { hosts := keeps.hosts
          atRest := atRest_run arguments input keeps.atRest
          has :=
            hasAt_run (Database.isKept_hasSpellable _ _) arguments input keeps.hosts.onDisk
              keeps.has }
  | changed _ same atRest keeps => exact ⟨keeps.hosts, atRest, keeps.has.congr same⟩

end CommandLine

end RecordStore
