import RecordStore.Proofs.Storage.Created

/-!
# Opening a table that is missing

A schema tells its fields apart by their characters, and a database tells
columns apart without regard to letter case.  A missing table is therefore
created for every schema but those with two fields that differ in letter case
alone; then it has the fields as its columns, in their order.

Main statement: `Session.opens_iff_fields_differ`.
-/

namespace RecordStore

/-! ## Fields of a schema -/

namespace Schema

variable {names : List String} {schema : Schema}

/-- Fields that differ, and not in letter case alone, are different names to SQL. -/
theorem tellsFieldsApart_iff (accepted : ofNames names = .ok schema) :
    schema.TellsFieldsApart ↔
      schema.fields.Pairwise fun earlier later => Text.sameName earlier later = false := by
  constructor
  · intro apart
    refine (nodup_fields accepted).pairwise_of_forall_ne ?_
    intro one isOne other isOther different
    rw [← Bool.not_eq_true]
    exact fun same => different (apart one isOne other isOther same)
  · intro distinct one isOne other isOther same
    by_contra different
    have : Std.Symm fun one other : String => Text.sameName one other = false :=
      ⟨fun one other differ => Text.sameName_comm one other ▸ differ⟩
    have differ := distinct.forall isOne isOther different
    rw [same] at differ
    contradiction

/-- A table accepts the fields of a schema as columns if they are told apart. -/
theorem checkColumns_fields_iff
    (accepted : ofNames names = .ok schema)
    (few : schema.fields.length ≤ Database.maximalColumns)
    (table : String) :
    Database.checkColumns table [] schema.fields = .ok () ↔ schema.TellsFieldsApart := by
  rw [Database.checkColumns_eq_ok_iff table (Nat.zero_le _), tellsFieldsApart_iff accepted]
  simp [few]

end Schema

/-! ## Columns that are refused -/

namespace Database

/-- Columns that are few enough are accepted up to the first whose name an earlier one has. -/
theorem checkColumns_eq_ok_or
    (table : String)
    (known : List String)
    {names : List String}
    (few : known.length + names.length ≤ maximalColumns) :
    checkColumns table known names = .ok () ∨
      ∃ before name after, names = before ++ name :: after ∧
        (∃ earlier ∈ known ++ before, Text.sameName name earlier = true) ∧
          checkColumns table known names = .error (.duplicateColumn name) := by
  induction names generalizing known with
  | nil => exact .inl rfl
  | cons first rest induction =>
      rw [List.length_cons] at few
      have spacious : ¬ maximalColumns ≤ known.length := by omega
      rw [checkColumns, if_neg spacious]
      split
      · next isTaken =>
          exact .inr ⟨[], first, rest, rfl, by simpa using isTaken, rfl⟩
      · have fewLeft : (known ++ [first]).length + rest.length ≤ maximalColumns := by
          rw [List.length_append, List.length_singleton]
          omega
        rcases induction (known ++ [first]) fewLeft with
          accepted | ⟨before, name, after, rfl, isTaken, refused⟩
        · exact .inl accepted
        · refine .inr ⟨first :: before, name, after, rfl, ?_, refused⟩
          simpa using isTaken

/-- A column is refused only because another one of a schema has its name in other letters. -/
theorem checkColumns_eq_ok_or_of_nodup
    (table : String)
    {names : List String}
    (nodup : names.Nodup)
    (few : names.length ≤ maximalColumns) :
    checkColumns table [] names = .ok () ∨
      ∃ earlier ∈ names, ∃ name ∈ names, earlier ≠ name ∧ Text.sameName earlier name = true ∧
        checkColumns table [] names = .error (.duplicateColumn name) := by
  rcases checkColumns_eq_ok_or table [] (by simpa using few) with
    accepted | ⟨before, name, after, rfl, ⟨earlier, isBefore, same⟩, refused⟩
  · exact .inl accepted
  · rw [List.nil_append] at isBefore
    refine .inr ⟨earlier, by simp [isBefore], name, by simp, ?_, ?_, refused⟩
    · exact (List.nodup_append.mp nodup).2.2 earlier isBefore name List.mem_cons_self
    · rwa [Text.sameName_comm]

/-- A missing table is created if its name is free and its columns are accepted. -/
theorem createTable_of_missing
    {database : Database}
    {name : String}
    (isMissing : database.table? name = none)
    (isFree : isReservedName name = false)
    (noIndex : database.indexes.any (Text.sameName name) = false)
    (columns : List String) :
    database.createTable name columns =
      (checkColumns name [] columns).map fun _ =>
        { database with tables := database.tables ++ [Session.newTable name columns] } := by
  rw [createTable, checkTableName, if_neg (by simp [isFree]), Outcome.ok_bind, isMissing]
  show (database.checkFree name >>= fun _ => database.addTable name columns _) = _
  rw [checkFree, if_neg (by simp [noIndex]), Outcome.ok_bind]
  rw [addTable]
  cases checkColumns name [] columns <;> rfl

end Database

/-! ## Opening -/

namespace Storage

variable
  {workspace made : Workspace}
  {text : String}
  {location : Location}
  {connection : Connection}

theorem openTable_of_connect
    (parsed : Location.parse text = .ok location)
    (connects : connect workspace location = (.ok connection, made))
    (schema : Schema)
    (policy : AutoCommit) :
    (openTable workspace schema text policy).1 =
      ((provideTable made connection location.table schema.fields).mapError .database).map
        (opened made location (Location.isIdentifier_of_parse parsed) schema policy
          connection) := by
  rw [openTable_eq parsed, connects]
  dsimp only
  cases provideTable made connection location.table schema.fields <;> rfl

/-- A missing table is provided by creating it, where that can be written. -/
theorem provideTable_of_missing
    {database : Database}
    {table : String}
    (isFree : Database.isReservedName table = false)
    (reads : made.read connection = .ok database)
    (isMissing : database.table? table = none)
    (canWrite : made.changeHindrance? connection = none)
    (noIndex : database.indexes.any (Text.sameName table) = false)
    (columns : List String) :
    provideTable made connection table columns =
      (Database.checkColumns table [] columns).map fun _ =>
        { database with tables := database.tables ++ [Session.newTable table columns] } := by
  rw [provideTable, Database.checkTableName, if_neg (by simp [isFree]), Outcome.ok_bind, reads,
    Outcome.ok_bind, isMissing, canWrite]
  exact Database.createTable_of_missing isMissing isFree noIndex columns

end Storage

namespace Session

/--
A table that is missing is created exactly when its database can be written, no
index has its name, and no two fields of the schema differ in letter case alone.

The new table is empty, and has the fields as its columns: the names that the
schema was made of, in their order and without the identity.  Where two fields
differ in letter case alone, the later of them is reported as a repeated
column.
-/
theorem opens_iff_fields_differ
    {workspace : Workspace}
    {names : List String}
    {schema : Schema}
    {text : String}
    {location : Location}
    (accepted : Schema.ofNames names = .ok schema)
    (few : schema.fields.length ≤ Database.maximalColumns)
    (parsed : Location.parse text = .ok location)
    (isFree : Database.isReservedName location.table = false)
    (lacks : workspace.LacksTable text)
    (policy : AutoCommit) :
    ((∃ session : Session,
          Storage.openTable workspace schema text policy =
            (.ok session.storage, session.workspace)) ↔
        workspace.CanWrite location ∧ schema.TellsFieldsApart) ∧
      (∀ session : Session,
        Storage.openTable workspace schema text policy =
            (.ok session.storage, session.workspace) →
          session.storage.schema = schema ∧
            ∃ table, session.table? location.table = some table ∧
              table.columns = schema.fields ∧
                schema.fields = names.filter (fun name => name ≠ Field.identityName) ∧
                  table.rows = []) ∧
        (workspace.CanWrite location → ¬ schema.TellsFieldsApart →
          ∃ earlier ∈ schema.fields, ∃ name ∈ schema.fields,
            earlier ≠ name ∧ Text.sameName earlier name = true ∧
              (Storage.openTable workspace schema text policy).1 =
                .error (.database (.duplicateColumn name))) := by
  have checked_iff := Schema.checkColumns_fields_iff accepted few location.table
  -- Where the database can be written, the columns alone decide.
  have decides (canWrite : workspace.CanWrite location) :
      ∃ made connection database,
        (Storage.openTable workspace schema text policy).1 =
          ((Database.checkColumns location.table [] schema.fields).map fun _ =>
            Storage.opened made location (Location.isIdentifier_of_parse parsed) schema policy
              connection database).mapError .database := by
    rcases canWrite with ⟨connection, made, database, connects, reads, free, noIndex⟩
    have isMissing := lacks location connection made database parsed connects reads
    refine
      ⟨made, connection,
        { database with tables := database.tables ++ [newTable location.table schema.fields] }, ?_⟩
    rw [Storage.openTable_of_connect parsed connects,
      Storage.provideTable_of_missing isFree reads isMissing free noIndex]
    cases Database.checkColumns location.table [] schema.fields <;> rfl
  refine ⟨⟨?_, ?_⟩, ?_, ?_⟩
  · rintro ⟨session, opens⟩
    rcases of_openTable_of_lacks lacks opens with
      ⟨_, _, connection, made, known, _, parsedToo, connects, reads, free, noIndex, checked, _⟩
    cases parsed.symm.trans parsedToo
    exact ⟨⟨connection, made, known, connects, reads, free, noIndex⟩, checked_iff.mp checked⟩
  · rintro ⟨canWrite, apart⟩
    rcases decides canWrite with ⟨made, connection, database, opens⟩
    rw [checked_iff.mpr apart] at opens
    exact ⟨⟨_, (Storage.openTable workspace schema text policy).2⟩, Prod.ext opens rfl⟩
  · intro session opens
    rcases of_openTable_of_lacks lacks opens with
      ⟨_, _, _, _, _, database, parsedToo, _, _, _, _, _, found, isStorage, _⟩
    cases parsed.symm.trans parsedToo
    rw [table?, view, isStorage]
    exact ⟨rfl, _, found, rfl, Schema.fields_eq_filter accepted, rfl⟩
  · intro canWrite notApart
    rcases decides canWrite with ⟨made, connection, database, opens⟩
    have nodup := Schema.nodup_fields accepted
    rcases Database.checkColumns_eq_ok_or_of_nodup location.table nodup few with
      checked | ⟨earlier, isEarlier, name, isName, different, same, refused⟩
    · exact absurd (checked_iff.mp checked) notApart
    · refine ⟨earlier, isEarlier, name, isName, different, same, ?_⟩
      rw [opens, refused]
      rfl

/-- A table of people in a file below a directory. -/
def peopleLocation : Location where
  backend := .sqlite
  database := "data/x.db"
  table := "people"

/-- The fields of the people. -/
def peopleSchema : Schema :=
  ⟨["name", "Born"], by decide +kernel⟩

/-- A file that was not there is made together with its directory, and gets the table. -/
theorem people_are_created :
    ∃ session : Session,
      Storage.openTable .empty peopleSchema "sqlite://data/x.db:people" .manual =
          (.ok session.storage, session.workspace) ∧
        (session.table? "people").map Table.columns = some ["name", "Born"] := by
  have accepted : Schema.ofNames ["name", "_id", "Born"] = .ok peopleSchema := by
    decide +kernel
  have parsed : Location.parse "sqlite://data/x.db:people" = .ok peopleLocation := by decide +kernel
  have connects :
      (Storage.connect .empty peopleLocation).1 =
        .ok { ownConnection with place := some ["data", "x.db"] } :=
    Outcome.eq_ok_of_toOption (by decide +kernel)
  have reads :
      (Storage.connect .empty peopleLocation).2.read
          { ownConnection with place := some ["data", "x.db"] } =
        .ok .empty := by
    decide +kernel
  have lacks : Workspace.empty.LacksTable "sqlite://data/x.db:people" :=
    lacksTable_of_connect parsed (Prod.ext connects rfl) reads rfl
  have canWrite : Workspace.empty.CanWrite peopleLocation :=
    ⟨_, _, _, Prod.ext connects rfl, reads, by decide +kernel, rfl⟩
  have apart : Schema.TellsFieldsApart peopleSchema := by decide
  rcases opens_iff_fields_differ accepted (by decide) parsed (by decide) lacks .manual with
    ⟨opens, hasColumns, _⟩
  rcases opens.mpr ⟨canWrite, apart⟩ with ⟨session, isOpened⟩
  rcases hasColumns session isOpened with ⟨_, table, isTable, columns, _⟩
  have isTable : session.table? "people" = some table := isTable
  exact ⟨session, isOpened, by rw [isTable, Option.map_some, columns]; rfl⟩

/-- Two fields that differ in letter case alone. -/
def caseSchema : Schema :=
  ⟨["name", "Name"], by decide +kernel⟩

/-- Two fields that differ in letter case alone make a schema for which no table can be created. -/
theorem letter_case_repeats_column :
    Schema.ofNames ["name", "Name"] = .ok caseSchema ∧
      Location.parse "sqlite://:memory::t" = .ok memoryLocation ∧
        Database.isReservedName memoryLocation.table = false ∧
          Workspace.empty.LacksTable "sqlite://:memory::t" ∧
            Workspace.empty.CanWrite memoryLocation ∧
              (Storage.openTable .empty caseSchema "sqlite://:memory::t" .manual).1 =
                .error (.database (.duplicateColumn "Name")) := by
  have parsed : Location.parse "sqlite://:memory::t" = .ok memoryLocation := by decide +kernel
  have connects : Storage.connect .empty memoryLocation = (.ok ownConnection, .empty) := rfl
  have canWrite : Workspace.empty.CanWrite memoryLocation :=
    ⟨ownConnection, .empty, .empty, connects, rfl, rfl, rfl⟩
  refine ⟨by decide +kernel, parsed, by decide, ?_, canWrite, ?_⟩
  · exact lacksTable_of_connect parsed connects rfl rfl
  · rw [Storage.openTable_of_connect parsed connects]
    rfl

end Session

end RecordStore
