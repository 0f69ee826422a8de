import RecordStore.Proofs.CommandLine.History
import RecordStore.Proofs.CommandLine.Output
import RecordStore.Proofs.Storage.Reconnect
import RecordStore.Proofs.Storage.Return

/-!
# What is printed can be put back

A command that prints records leaves the connection of its storage, and a put
that comes after it finds the same connection in the same workspace.  It reads
the records from the lines that were printed, and these go back into the rows
that they were read from.

Main statement: `CommandLine.printed_records_are_put_back`.
-/

namespace RecordStore

/-! ## Records of spellable tables -/

theorem Cell.isFinite_value
    {cell : Cell}
    (isFinite : cell.isFinite = true) :
    cell.value.isFinite = true := by
  cases cell with
  | null | integer | blob => rfl
  | real number => exact isFinite
  | text bytes =>
      rw [value, toValue]
      cases Utf8.decode bytes <;> rfl

/-- What is read from a row of a spellable table can be written and read back. -/
theorem Table.IsSpellable.isWritable_recordOf
    {table : Table}
    {fields : List String}
    (spellable : table.IsSpellable fields)
    (noIdentity : Field.identityName ∉ fields)
    {row : Row}
    (member : row ∈ table.rows) :
    (table.recordOf row).IsWritable := by
  have ofColumn {entry : String × Value} (isEntry : entry ∈ (table.recordOf row).fields.entries) :
      ∃ name cell, name ∈ table.columns ∧ cell ∈ row.cells ∧ entry = (name, cell.value) := by
    rcases List.mem_map.mp (Fields.mem_ofList isEntry) with ⟨⟨name, cell⟩, isColumn, rfl⟩
    exact ⟨name, cell, (List.of_mem_zip isColumn).1, (List.of_mem_zip isColumn).2, rfl⟩
  constructor
  · intro entry isEntry
    rcases ofColumn isEntry with ⟨name, cell, _, isCell, rfl⟩
    exact Cell.isFinite_value (spellable.finite row member cell isCell)
  · intro entry isEntry
    rcases ofColumn isEntry with ⟨name, cell, isColumn, _, rfl⟩
    rintro rfl
    exact noIdentity (spellable.columns ▸ isColumn)

/-- A database with a table is not empty. -/
theorem Database.ne_empty_of_table?
    {database : Database}
    {name : String}
    {table : Table}
    (found : database.table? name = some table) :
    database ≠ .empty := by
  rintro rfl
  exact Option.some_ne_none table found.symm

namespace Workspace

variable {workspace : Workspace} {connection : Connection} {place : Path.Place} {known : Database}

/-! ## Databases that can be read -/

theorem save_of_read (reads : workspace.read connection = .ok known) :
    workspace.save connection known = workspace := by
  cases isPlace : connection.place with
  | none => simp only [save, isPlace]
  | some place => exact save_of_known isPlace (Session.database_of_read isPlace reads)

/-- A connection does not meet what is locked at other places. -/
theorem othersLocks_of_unlocked
    (isPlace : connection.place = some place)
    (unlocked : ∀ hold ∈ workspace.holds, hold.place ≠ place)
    (own : Option Lock) :
    workspace.othersLocks connection own = [] := by
  apply List.eq_nil_iff_forall_not_mem.mpr
  intro lock met
  rcases exists_of_mem_othersLocks met with ⟨hold, member, isThere, _⟩
  exact unlocked hold member (Option.some.inj (isThere.symm.trans isPlace))

/-- Where a database with tables can be read and nobody writes, its journal is no directory. -/
theorem isDirectory_journal_of_read
    (isPlace : connection.place = some place)
    (onDisk : Path.isInMemory place = false)
    (notFrozen : connection.isFrozen = false)
    (notBusy : workspace.isBusyForWriting connection none = false)
    (reads : workspace.read connection = .ok known)
    (nonempty : known ≠ .empty) :
    workspace.isDirectory (Path.journal place) = false := by
  have holds := Session.database_of_read isPlace reads
  rcases exists_file_of_database holds nonempty with ⟨content, stands⟩
  have occupied : isVacant content = false := by
    rw [database_of_file stands] at holds
    cases content with
    | database => rfl
    | text content =>
        rw [databaseOf] at holds
        split at holds
        · cases holds
          exact absurd rfl nonempty
        · next isLong => simpa [isVacant] using isLong
  have readable := (openingHindrance?_eq_none_iff.mp (openingHindrance?_of_read isPlace reads)).2
  simpa [isUnreadable, notFrozen, notBusy, isPlace, hasBadJournal, stands, occupied, onDisk] using
    readable

end Workspace

namespace Storage

/-! ## Storages of tables that are there -/

/-- A connection to a location reads a database there. -/
structure Finds
    (workspace : Workspace)
    (location : Location)
    (connection : Connection)
    (opened : Workspace)
    (known : Database) :
    Prop where
  connects : connect workspace location = (.ok connection, opened)
  reads : opened.read connection = .ok known

/-- A storage whose table is there opens the database as it is. -/
theorem finds_of_opens
    {workspace after : Workspace}
    {storage : Storage}
    (opens : Session.Opens workspace ⟨storage, after⟩)
    {place : Path.Place}
    (isPlace : storage.connection.place = some place)
    {known : Database}
    (holds : workspace.database place = .ok known)
    (isThere : (known.table? storage.table).isSome = true) :
    storage.view = known ∧
      Finds workspace storage.location storage.connection after known := by
  have isKnown
      {location : Location}
      {connection : Connection}
      {made : Workspace}
      (connects : connect workspace location = (.ok connection, made))
      (isOwn : connection.place = some place)
      {found : Database}
      (reads : made.read connection = .ok found) :
      found = known := by
    have isFound :=
      (unchanged_of_connect connects isOwn).1.symm.trans (Session.database_of_read isOwn reads)
    exact Except.ok.inj (isFound.symm.trans holds)
  rcases opens with ⟨schema, text, policy, opens⟩ | ⟨text, policy, opens⟩
  · rcases of_openTable opens with
      ⟨location, _, connection, made, database, _, connects, provides, isStorage, isAfter⟩
    dsimp only at isStorage isAfter
    cases isStorage
    rcases Session.of_provideTable provides with ⟨found, reads, _, ⟨_, rfl⟩ | ⟨isMissing, _, _⟩⟩
    · rw [Workspace.save_of_read reads] at isAfter
      cases isAfter
      cases isKnown connects isPlace reads
      exact ⟨rfl, connects, reads⟩
    · cases isKnown connects isPlace reads
      have isThere : (known.table? location.table).isSome = true := isThere
      rw [isMissing] at isThere
      exact absurd isThere Bool.false_ne_true
  · rcases of_openExisting opens with
      ⟨location, _, connection, database, schema, _, connects, reads, _, isStorage⟩
    dsimp only at isStorage connects reads
    cases isStorage
    cases isKnown connects isPlace reads
    exact ⟨rfl, connects, reads⟩

namespace Finds

variable
    {workspace opened : Workspace}
    {location : Location}
    {connection : Connection}
    {known : Database}
    {place : Path.Place}
    (finds : Finds workspace location connection opened known)

include finds

theorem database_eq (isPlace : connection.place = some place) :
    workspace.database place = .ok known :=
  (unchanged_of_connect finds.connects isPlace).1.symm.trans
    (Session.database_of_read isPlace finds.reads)

/-- Whoever is alone, leaves and comes again finds the same. -/
theorem again
    (isPlace : connection.place = some place)
    (onDisk : Path.isInMemory place = false)
    (nobody : workspace.share? place = none)
    (nonempty : known ≠ .empty) :
    Finds (opened.disconnect connection) location connection opened known := by
  have holds := finds.database_eq isPlace
  exact ⟨connect_again finds.connects isPlace onDisk nobody holds nonempty, finds.reads⟩

section Parsed

variable {uri : String} (parsed : Location.parse uri = .ok location)

include parsed

theorem openTable_eq
    (allowed : Database.checkTableName location.table = .ok ())
    (isThere : (known.table? location.table).isSome = true)
    (schema : Schema)
    (policy : AutoCommit) :
    openTable workspace schema uri policy =
      (.ok
        (.opened opened location (Location.isIdentifier_of_parse parsed) schema policy connection
          known),
        opened) := by
  have provides : provideTable opened connection location.table schema.fields = .ok known := by
    rw [provideTable, allowed, Outcome.ok_bind, finds.reads, Outcome.ok_bind, if_pos isThere]
  rw [Storage.openTable_eq parsed, finds.connects]
  dsimp only
  rw [provides]
  dsimp only
  refine congrArg (Prod.mk _) ?_
  exact (Workspace.exchange_self _).trans (Workspace.save_of_read finds.reads)

theorem openExisting_eq
    {schema : Schema}
    (readsSchema : readSchema known location.table = .ok schema)
    (policy : AutoCommit) :
    openExisting workspace uri policy =
      (.ok
        (.opened opened location (Location.isIdentifier_of_parse parsed) schema policy connection
          known),
        opened) := by
  rw [Storage.openExisting_eq parsed, finds.connects]
  dsimp only
  rw [finds.reads]
  dsimp only
  rw [readsSchema]

end Parsed

section Hosts

variable
    {schema : Schema}
    (hosts : location.Hosts place schema)
    (isPlace : connection.place = some place)
    (atRest : workspace.IsAtRest place)

include atRest

theorem lacksSpace_eq_false : opened.lacksSpace connection = false := by
  have hasSpace := (locksNoMore_of_connect finds.connects).isFull_eq.trans atRest.hasSpace
  rw [Workspace.lacksSpace, hasSpace, Bool.false_and]

include isPlace

/-- Where nobody was connected, nobody is changing anything. -/
theorem isQuiet : opened.changing? place = none := by
  rw [(unchanged_of_connect finds.connects isPlace).2, Workspace.changing?, atRest.nobody]
  rfl

theorem othersLocks_eq (own : Option Lock) : opened.othersLocks connection own = [] := by
  have locks := locksNoMore_of_connect finds.connects
  apply Workspace.othersLocks_of_unlocked isPlace
  exact fun hold member => atRest.unlocked hold (locks.holds_subset member)

include hosts

theorem isReadOnly_eq_false : connection.isReadOnly = false := by
  rcases connection_of_connect finds.connects isPlace atRest.nobody with ⟨address, isAddress, rfl⟩
  rcases hosts.home with ⟨known, isKnown, _, writes⟩
  cases isAddress.symm.trans isKnown
  exact writes

theorem lacksJournal_eq_false (nonempty : known ≠ .empty) :
    opened.lacksJournal place = false := by
  have notFrozen : connection.isFrozen = false := by
    cases frozen : connection.isFrozen with
    | false => rfl
    | true =>
        have isReadOnly := connection.isReadOnly_of_isFrozen frozen
        cases (finds.isReadOnly_eq_false hosts isPlace atRest).symm.trans isReadOnly
  have notBusy : opened.isBusyForWriting connection none = false := by
    rw [Workspace.isBusyForWriting, finds.othersLocks_eq isPlace atRest]
    rfl
  have notDirectory :=
    Workspace.isDirectory_journal_of_read isPlace hosts.onDisk notFrozen notBusy finds.reads
      nonempty
  simp only [Workspace.lacksJournal, notDirectory, hosts.journal, Bool.or_self, Bool.and_false]

theorem isWritable (nonempty : known ≠ .empty) : opened.IsWritable connection none where
  notReadOnly := finds.isReadOnly_eq_false hosts isPlace atRest
  alone := Workspace.changedElsewhere?_of_isQuiet isPlace (finds.isQuiet isPlace atRest) _
  notBusy := by
    rw [Workspace.isBusyForWriting, finds.othersLocks_eq isPlace atRest]
    rfl
  readable :=
    (Workspace.openingHindrance?_eq_none_iff.mp
      (Workspace.openingHindrance?_of_read isPlace finds.reads)).2
  hasJournal := by
    intro own isOwn
    cases isPlace.symm.trans isOwn
    exact finds.lacksJournal_eq_false hosts isPlace atRest nonempty
  hasSpace := finds.lacksSpace_eq_false atRest

/-- Where a file is at rest, a storage at a location that hosts its table is ready. -/
theorem ready
    {table : Table}
    (found : known.table? location.table = some table)
    (suits : table.Suits schema.fields)
    (isIdentifier : Identifier.check location.table = .ok ())
    (policy : AutoCommit) :
    ((Storage.opened opened location isIdentifier schema policy connection known).refresh
      opened).Ready table := by
  rcases
      refresh_opened opened isPlace finds.reads (finds.isQuiet isPlace atRest) location isIdentifier
        schema policy with
    ⟨isView, readable⟩
  have writable := finds.isWritable hosts isPlace atRest (Database.ne_empty_of_table? found)
  rw [← isView] at found
  exact
    { found := found
      suits := suits
      areFields := hosts.fields.1
      readable := readable
      writable := Workspace.writeHindrance?_eq_none_iff.mpr writable
      committable := by
        refine Workspace.commitHindrance?_eq_none_iff.mpr ⟨?_, writable.hasSpace⟩
        have unlocked := finds.othersLocks_eq isPlace atRest none
        exact congrArg (List.contains · .reading) unlocked }

end Hosts

end Finds

/-! ## Closing what has not been changed -/

/-- A storage that has locked nothing and is refreshed changes nothing. -/
theorem save_refresh_of_unlocked
    (storage : Storage)
    (unlocked : storage.lock? = none)
    (workspace : Workspace) :
    (storage.refresh workspace).save workspace storage = workspace := by
  have sameLock : (storage.refresh workspace).lock? = storage.lock? := rfl
  rw [save, isWriting, isWriting, sameLock, unlocked, Workspace.exchange_self]
  exact storage.save_refresh workspace

/-- A storage that has locked nothing leaves a workspace as its connection leaves it. -/
theorem disconnect_of_unlocked
    (storage : Storage)
    (unlocked : storage.lock? = none)
    (workspace : Workspace) :
    storage.disconnect workspace = workspace.disconnect storage.connection := by
  let closed := (storage.refresh workspace).close
  have closedToo : closed.lock? = none := rfl
  have nothingSaved : closed.save workspace storage = workspace := by
    rw [save, isWriting, isWriting, closedToo, unlocked, Workspace.exchange_self]
    exact storage.save_refresh workspace
  show (closed.save workspace storage).disconnect closed.connection = _
  rw [nothingSaved]
  rfl

end Storage

namespace CommandLine

open Storage (Finds)

variable {location : Location} {place : Path.Place} {schema : Schema}

/-! ## Opening again -/

/-- With the schema of the table or without one, a command opens a table that is there as it is. -/
theorem Context.openStorage_of_finds
    {context : Context}
    {workspace opened : Workspace}
    {connection : Connection}
    {known : Database}
    (finds : Finds workspace location connection opened known)
    (hosts : location.Hosts place schema)
    (has : known.HasSpellable location.table schema.fields)
    {uri : String}
    (isLocation : context.location = .ok uri)
    (parsed : Location.parse uri = .ok location)
    {fields : Option String}
    (isSchema : context.schema fields = .ok none ∨ context.schema fields = .ok (some schema))
    (policy : Option AutoCommit) :
    context.openStorage workspace fields policy =
      (.ok
        (.opened opened location (Location.isIdentifier_of_parse parsed) schema
          (policy.getD context.settings.policy) connection known),
        opened) := by
  rcases has with ⟨table, found, spellable⟩
  rcases isSchema with isNone | isSome
  · have readsSchema : Storage.readSchema known location.table = .ok schema := by
      rw [Storage.readSchema, Database.relation?_of_table? found]
      dsimp only
      rw [spellable.columns]
      exact hosts.fields.2
    simp only [openStorage, isLocation, isNone]
    exact finds.openExisting_eq parsed readsSchema _
  · simp only [openStorage, isLocation, isSome]
    exact finds.openTable_eq parsed hosts.named (Option.isSome_of_eq_some found) schema _

/-! ## Printing -/

/-- A command that reads works on a storage that was opened, and leaves its connection. -/
theorem Context.withStorage_reading
    {context : Context}
    {workspace opened : Workspace}
    {fields : Option String}
    {policy : Option AutoCommit}
    {storage : Storage}
    (opens : context.openStorage workspace fields policy = (.ok storage, opened))
    {α : Type}
    (operation : Storage → Except Error α) :
    context.withStorage workspace fields policy (reading operation) =
      (operation (storage.refresh opened), opened.disconnect storage.connection) := by
  have unlocked := (Storage.locksNoMore_of_opens (of_openStorage opens).1).2
  have stillUnlocked : (storage.refresh opened).lock? = none := unlocked
  rw [withStorage_of_ok opens]
  dsimp only [reading]
  rw [storage.save_refresh_of_unlocked unlocked, Storage.disconnect_of_unlocked _ stillUnlocked]
  rfl

/-- The lines with records that were read from rows. -/
def linesOf (table : Table) (rows : List Row) : String :=
  String.join ((rows.map table.recordOf).map fun record => line record.toText)

theorem exists_rows_of_getRecords
    {storage : Storage}
    {table : Table}
    (found : storage.view.table? storage.table = some table)
    (suits : table.Suits schema.fields)
    (areFields : AreFields schema.fields)
    {filter : Option String}
    {output : String}
    (prints : getRecords filter storage = .ok output) :
    ∃ rows, (∀ row ∈ rows, row ∈ table.rows) ∧ output = linesOf table rows := by
  rcases Outcome.bind_eq_ok_iff.mp prints with ⟨selection, _, prints⟩
  rcases Outcome.bind_eq_ok_iff.mp prints with ⟨records, gets, isOutput⟩
  have isOwn := Database.getOwnTable_eq found suits.own
  rcases Storage.exists_rows_of_get isOwn suits.carries areFields gets with ⟨rows, areRows, rfl⟩
  cases isOutput
  exact ⟨rows, areRows, rfl⟩

/-- A command that has printed records has found their table, and left its connection. -/
theorem exists_rows_of_get
    {workspace : Workspace}
    (keeps : Keeps workspace location place schema)
    {arguments : List String}
    {request : Request}
    (asked : Request.read arguments = .ok request)
    {filter : Option String}
    (isGet : request.task = .get filter)
    (addresses : request.Addresses workspace location place)
    {input : String}
    (succeeds : (run arguments input workspace).1.code = 0) :
    ∃ connection opened known table rows,
      Finds workspace location connection opened known ∧ connection.place = some place ∧
        known.table? location.table = some table ∧ table.IsSpellable schema.fields ∧
          (∀ row ∈ rows, row ∈ table.rows) ∧
            (run arguments input workspace).1.output = linesOf table rows ∧
              (run arguments input workspace).2 = opened.disconnect connection := by
  rcases keeps.has with ⟨known, holds, table, found, spellable⟩
  have isRun := run_of_read asked input workspace
  cases discovers : Settings.discover workspace request.settings Path.here with
  | error error =>
      rcases addresses with ⟨_, _, _, isKnown, _⟩
      cases discovers.symm.trans isKnown
  | ok settings =>
      rw [Request.run_of_discover discovers, isGet, perform] at isRun
      rw [isRun] at succeeds ⊢
      rcases opens : Context.openStorage ⟨request.uri, settings⟩ workspace none none with
        ⟨error | storage, opened⟩
      · rw [Context.withStorage_of_error opens] at succeeds
        exact absurd succeeds Nat.one_ne_zero
      · rcases addresses.storage_eq discovers opens with ⟨rfl, isPlace⟩
        rcases Storage.finds_of_opens (Context.of_openStorage opens).1 isPlace holds
            (Option.isSome_of_eq_some found) with ⟨isKnown, finds⟩
        have isView : (storage.refresh opened).view = known :=
          (Session.settled_of_opens (Context.of_openStorage opens).1).view_current.trans isKnown
        rw [Context.withStorage_reading opens] at succeeds ⊢
        cases prints : getRecords filter (storage.refresh opened) with
        | error error =>
            rw [prints] at succeeds
            exact absurd succeeds Nat.one_ne_zero
        | ok output =>
            rw [← isView] at found
            rcases exists_rows_of_getRecords found spellable.toSuits keeps.hosts.fields.1
                prints with ⟨rows, areRows, isOutput⟩
            rw [isView] at found
            exact
              ⟨storage.connection, opened, known, table, rows, finds, isPlace, found, spellable,
                areRows, isOutput, rfl⟩

/-! ## Putting back -/

/-- A command that puts records back commits a database with the same tables. -/
theorem putRecords_recordOf
    {storage : Storage}
    {table : Table}
    (ready : storage.Ready table)
    (hasField : storage.schema.fields ≠ [])
    {rows : List Row}
    (areRows : ∀ row ∈ rows, row ∈ table.rows) :
    (∃ output, (putRecords (rows.map table.recordOf) storage).1 = .ok output) ∧
      ∀ name,
        (putRecords (rows.map table.recordOf) storage).2.committed.table? name =
          storage.view.table? name := by
  rcases ready.putMany_recordOf hasField areRows with ⟨isPut, same⟩
  have continues := (Storage.worksByStages_putMany (rows.map table.recordOf)).continues storage
  rcases puts : storage.putMany (rows.map table.recordOf) with ⟨result, after⟩
  rw [puts] at isPut same continues
  rw [show result = .ok _ from isPut] at puts
  have settles := after.settles_commit
  have committable : after.commitHindrance = none :=
    continues.commitHindrance_eq.trans ready.committable
  simp only [putRecords, puts]
  generalize after.commit = committed at settles ⊢
  cases settles with
  | published => exact ⟨⟨_, rfl⟩, same⟩
  | waiting _ hinders | lost _ hinders => cases committable.symm.trans hinders

/-- A put of records that were read from a table leaves all tables as they are. -/
theorem Context.withStorage_putRecords_recordOf
    {context : Context}
    {workspace opened : Workspace}
    {connection : Connection}
    {known : Database}
    (finds : Finds workspace location connection opened known)
    (hosts : location.Hosts place schema)
    (isPlace : connection.place = some place)
    (atRest : workspace.IsAtRest place)
    {table : Table}
    (found : known.table? location.table = some table)
    (spellable : table.IsSpellable schema.fields)
    {uri : String}
    (isLocation : context.location = .ok uri)
    (parsed : Location.parse uri = .ok location)
    {fields : Option String}
    (isSchema : context.schema fields = .ok none ∨ context.schema fields = .ok (some schema))
    (policy : Option AutoCommit)
    {rows : List Row}
    (areRows : ∀ row ∈ rows, row ∈ table.rows) :
    let put := context.withStorage workspace fields policy (putRecords (rows.map table.recordOf))
    (∃ output, put.1 = .ok output) ∧
      (∃ new, put.2.database place = .ok new ∧ ∀ name, new.table? name = known.table? name) ∧
        ∀ other, other ≠ place → Path.isInMemory other = false →
          put.2.database other = workspace.database other := by
  intro put
  have opens :=
    openStorage_of_finds finds hosts ⟨table, found, spellable⟩ isLocation parsed isSchema policy
  have ready :=
    finds.ready hosts isPlace atRest found spellable.toSuits
      (Location.isIdentifier_of_parse parsed) (policy.getD context.settings.policy)
  have isView := (Session.settled_of_opens (of_openStorage opens).1).view_current
  rcases putRecords_recordOf ready hosts.hasField areRows with ⟨⟨output, puts⟩, same⟩
  have left (other : Path.Place) (onDisk : Path.isInMemory other = false) :=
    database_withStorage opens (worksByStages_putRecords (rows.map table.recordOf)) onDisk
  refine ⟨⟨output, ?_⟩, ⟨_, (left place hosts.onDisk).trans (if_pos isPlace), fun name => ?_⟩, ?_⟩
  · rw [show put = _ from withStorage_of_ok opens _]
    exact puts
  · exact (same name).trans (congrArg (Database.table? · name) isView)
  · intro other apart onDisk
    apply (left other onDisk).trans
    apply if_neg
    show connection.place ≠ some other
    rw [isPlace]
    exact fun isOther => apart (Option.some.inj isOther).symm

/--
What is printed of a table that a put has created can be put back, with the
schema that the table was created for or without any: the put succeeds and
every table stays as it is, in this file and all others.
-/
theorem printed_records_are_put_back
    {workspace : Workspace}
    (history : HasHistory location place schema workspace)
    {getting : List String}
    {toGet : Request}
    (asksToGet : Request.read getting = .ok toGet)
    {filter : Option String}
    (isGet : toGet.task = .get filter)
    (addresses : toGet.Addresses workspace location place)
    {input : String}
    (succeeds : (run getting input workspace).1.code = 0)
    {putting : List String}
    {toPut : Request}
    (asksToPut : Request.read putting = .ok toPut)
    {fields : Option String}
    {policy : Option AutoCommit}
    (isPut : toPut.task = .put fields policy [])
    (addressesToo : toPut.Addresses (run getting input workspace).2 location place)
    (isSchema :
      ∀ settings,
        Settings.discover (run getting input workspace).2 toPut.settings Path.here =
            .ok settings →
          Context.schema ⟨toPut.uri, settings⟩ fields = .ok none ∨
            Context.schema ⟨toPut.uri, settings⟩ fields = .ok (some schema)) :
    let printed := run getting input workspace
    let returned := run putting printed.1.output printed.2
    returned.1.code = 0 ∧
      (∃ old new,
        workspace.database place = .ok old ∧ returned.2.database place = .ok new ∧
          ∀ name, new.table? name = old.table? name) ∧
        ∀ other, other ≠ place → Path.isInMemory other = false →
          returned.2.database other = workspace.database other := by
  intro printed returned
  have keeps := history.keeps
  rcases exists_rows_of_get keeps asksToGet isGet addresses succeeds with
    ⟨connection, opened, known, table, rows, finds, isPlace, found, spellable, areRows, isOutput,
      isLeft⟩
  have findsAgain :=
    finds.again isPlace keeps.hosts.onDisk keeps.atRest.nobody (Database.ne_empty_of_table? found)
  have atRest := atRest_run getting input keeps.atRest
  rw [← isLeft] at findsAgain
  rcases addressesToo with ⟨settings, uri, address, discovers, isLocation, parsed, _⟩
  rcases
      Context.withStorage_putRecords_recordOf findsAgain keeps.hosts isPlace atRest found spellable
        isLocation parsed (isSchema settings discovers) policy areRows with
    ⟨⟨output, puts⟩, ⟨new, isNew, same⟩, others⟩
  have reads : readRecords (filledLines printed.1.output) = .ok (rows.map table.recordOf) := by
    rw [isOutput, linesOf]
    apply readRecords_filledLines
    intro record member
    rcases List.mem_map.mp member with ⟨row, isRow, rfl⟩
    exact spellable.isWritable_recordOf keeps.hosts.noIdentity (areRows row isRow)
  have performs :
      perform ⟨toPut.uri, settings⟩ printed.2 printed.1.output (.put fields policy []) =
        Context.withStorage ⟨toPut.uri, settings⟩ printed.2 fields policy
          (putRecords (rows.map table.recordOf)) :=
    perform_put_of_ok reads
  have isReturned := run_of_read asksToPut printed.1.output printed.2
  rw [Request.run_of_discover discovers, isPut, performs] at isReturned
  rw [show returned = _ from isReturned]
  refine ⟨?_, ⟨known, new, finds.database_eq isPlace, isNew, same⟩, fun other apart onDisk => ?_⟩
  · rw [puts]
    rfl
  · refine (others other apart onDisk).trans ?_
    have connected := Storage.database_connect workspace location other
    rw [finds.connects] at connected
    rw [isLeft]
    exact (opened.database_disconnect_of_onDisk connection onDisk).trans connected

/-- The text of a record with a line feed and a negative zero in it. -/
def adaText : String := "\x7b\"name\":\"Ada\\nLovelace\",\"share\":-0.0\x7d"

/-- Arguments for storing the record in the file `d.db`. -/
def putAda : List String :=
  ["put", "-u", "sqlite://d.db:t", "-f", "name,share", adaText]

/-- Arguments for printing all records of the file. -/
def getAll : List String := ["get", "-u", "sqlite://d.db:t"]

/-- Arguments for storing the records on the input in the file, each committed at once. -/
def putAll : List String := ["put", "-u", "sqlite://d.db:t", "-a", "always"]

/-- What is left of an empty workspace when the record has been stored. -/
def withAda : Workspace :=
  (run putAda "" .empty).2

/-- The table of the file. -/
def adaLocation : Location := ⟨.sqlite, "d.db", "t"⟩

/-- The fields of the record. -/
def adaSchema : Schema :=
  ⟨["name", "share"], by decide +kernel⟩

theorem isAtRest_empty (place : Path.Place) : Workspace.empty.IsAtRest place :=
  ⟨rfl, nofun, rfl⟩

theorem addresses_adaLocation
    {request : Request}
    (isUri : request.uri = some "sqlite://d.db:t")
    {workspace : Workspace}
    (unset : Settings.discover workspace request.settings Path.here = .ok .unset) :
    request.Addresses workspace adaLocation ["d.db"] := by
  have isLocation : Context.location ⟨request.uri, .unset⟩ = .ok "sqlite://d.db:t" := by
    rw [isUri]
    rfl
  exact
    ⟨.unset, _, ⟨.file "d.db", .creating, false, false⟩, unset, isLocation, by decide +kernel,
      by decide +kernel, by decide +kernel⟩

theorem hasHistory_withAda :
    HasHistory adaLocation ["d.db"] adaSchema withAda := by
  let request : Request :=
    { uri := some "sqlite://d.db:t"
      settings := none
      task := .put (some "name,share") none [adaText] }
  have asked : Request.read putAda = .ok request := by decide +kernel
  have discovers : Settings.discover .empty none Path.here = .ok .unset :=
    Outcome.eq_ok_of_toOption (by decide +kernel)
  have isSchema :
      Context.schema ⟨request.uri, .unset⟩ (some "name,share") = .ok (some adaSchema) :=
    Outcome.eq_ok_of_toOption (by decide +kernel)
  have addresses : request.Addresses .empty adaLocation ["d.db"] :=
    addresses_adaLocation rfl discovers
  have isEmpty : Workspace.empty.database ["d.db"] = .ok .empty := by decide +kernel
  refine .created asked rfl discovers isSchema addresses (isAtRest_empty _) isEmpty rfl ?_
  exact Workspace.hasAt_of_any (by decide +kernel)

/-- The record is printed and put back, each put being committed at once. -/
theorem ada_is_put_back :
    let printed := run getAll "" withAda
    let returned := run putAll printed.1.output printed.2
    printed.1.output = "\x7b\"_id\":1,\"name\":\"Ada\\nLovelace\",\"share\":-0.0\x7d\n" ∧
      returned.1.code = 0 ∧
        ∃ old new,
          withAda.database ["d.db"] = .ok old ∧ returned.2.database ["d.db"] = .ok new ∧
            ∀ name, new.table? name = old.table? name := by
  intro printed returned
  let toGet : Request :=
    { uri := some "sqlite://d.db:t"
      settings := none
      task := .get none }
  let toPut : Request :=
    { uri := some "sqlite://d.db:t"
      settings := none
      task := .put none (some .everyPut) [] }
  have asksToGet : Request.read getAll = .ok toGet := by decide +kernel
  have asksToPut : Request.read putAll = .ok toPut := by decide +kernel
  have unset : Settings.discover withAda none Path.here = .ok .unset :=
    Outcome.eq_ok_of_toOption (by decide +kernel)
  have stillUnset : Settings.discover printed.2 none Path.here = .ok .unset :=
    Outcome.eq_ok_of_toOption (by decide +kernel)
  have addresses : toGet.Addresses withAda adaLocation ["d.db"] :=
    addresses_adaLocation rfl unset
  have addressesToo : toPut.Addresses printed.2 adaLocation ["d.db"] :=
    addresses_adaLocation rfl stillUnset
  have isSchema (settings : Settings)
      (discovers : Settings.discover printed.2 toPut.settings Path.here = .ok settings) :
      Context.schema ⟨toPut.uri, settings⟩ none = .ok none ∨
        Context.schema ⟨toPut.uri, settings⟩ none = .ok (some adaSchema) := by
    cases stillUnset.symm.trans discovers
    exact .inl rfl
  have succeeds : printed.1.code = 0 := by decide +kernel
  rcases
      printed_records_are_put_back hasHistory_withAda asksToGet rfl addresses succeeds asksToPut rfl
        addressesToo isSchema with
    ⟨code, same, _⟩
  exact ⟨by decide +kernel, code, same⟩

end CommandLine

end RecordStore
