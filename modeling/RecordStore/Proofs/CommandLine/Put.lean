import RecordStore.Proofs.CommandLine.Run
import RecordStore.Proofs.Pointwise
import RecordStore.Proofs.Storage.Partial

/-!
# Putting without commits in between

A put reads all of its records before it opens the storage, so that a text
that is no record keeps everything as it is.  When puts do not commit by
themselves, what is stored is committed all at once in the end, or not at
all: the storage is closed with its changes lost.

Main statement: `CommandLine.manual_put_is_all_or_nothing`.
-/

namespace RecordStore

/-! ## Storing records in a database -/

namespace Database

/--
A record is stored in a table, by a statement that adds a row or overwrites one,
or the table leaves the new row out.
-/
inductive Stores (table : String) (before : Database) (record : Record) : Database → Prop where
  | added
      {id : Int64}
      {effect : Effect}
      (isNew : record.id = none)
      (inserts :
        before.insertCells table
            (record.fields.entries.map fun entry => (entry.1, Cell.ofValue entry.2)) =
          .ok effect)
      (isAdded : effect.inserted = some id) :
      Stores table before record effect.database
  | leftOut
      {known : Table}
      (isNew : record.id = none)
      (isTable : before.getOwnTable table = .ok known)
      (mayDrop : known.MayDrop) :
      Stores table before record before
  | overwritten
      {id : Int64}
      {effect : Effect}
      (isKnown : record.id = some id)
      (updates :
        before.update table record.fields.entries (Sql.Condition.ofId id) = .ok effect)
      (isThere : effect.changed ≠ 0) :
      Stores table before record effect.database

/-- Records are stored in a table one after the other. -/
inductive StoresAll (table : String) : Database → List Record → Database → Prop where
  | nil {database : Database} : StoresAll table database [] database
  | cons
      {before middle after : Database}
      {record : Record}
      {rest : List Record}
      (first : before.Stores table record middle)
      (others : StoresAll table middle rest after) :
      StoresAll table before (record :: rest) after

end Database

namespace Storage

variable {storage : Storage}

theorem stores_of_storeRecord
    {record : Record}
    (checked : storage.schema.check record = .ok ())
    {id : Int64}
    {database : Database}
    (stores : storage.storeRecord record = .ok (id, database)) :
    storage.view.Stores storage.table record database := by
  rcases (of_storeRecord checked stores).2 with
    ⟨isNew, effect, inserts, _, rfl⟩ | ⟨isKnown, _, effect, updates, isThere, rfl⟩
  · cases inserted : effect.inserted with
    | some id => exact .added isNew inserts inserted
    | none =>
        rcases Database.mayDrop_of_insertCells inserts inserted with
          ⟨same, table, isTable, mayDrop⟩
        rw [same]
        exact .leftOut isNew isTable mayDrop
  · exact .overwritten isKnown updates isThere

theorem stores_of_put
    {record : Record}
    {id : Int64}
    {after : Storage}
    (puts : storage.put record = (.ok id, after)) :
    storage.view.Stores storage.table record after.view := by
  have becomes := storage.puts_put record
  rw [puts] at becomes
  generalize result : (Except.ok id, after) = pair at becomes
  cases becomes with
  | refused | failed => cases result
  | @stored stored database counted last fits stores counts =>
      have isView : last.view = database := by
        refine view_of_countPut counts fun error fails => ?_
        rw [fails] at result
        cases result
      rw [(Prod.mk.inj result).2, isView]
      exact stores_of_storeRecord fits stores

/-- A storage that has stored records sees all of them. -/
theorem storesAll_of_putEach
    {records : List Record}
    {ids : List Int64}
    (puts : (storage.putEach records).1 = .ok ids) :
    Database.StoresAll storage.table storage.view records (storage.putEach records).2.view := by
  induction records generalizing storage ids with
  | nil => exact .nil
  | cons record rest induction =>
      have sameTable := (storage.continues_put record).table_eq
      rcases isPut : storage.put record with ⟨error | id, after⟩
      · rw [putEach_of_error isPut] at puts
        contradiction
      · rw [isPut] at sameTable
        rw [putEach_of_ok isPut] at puts ⊢
        rcases Outcome.map_eq_ok_iff.mp puts with ⟨others, putsRest, _⟩
        have stored := induction putsRest
        rw [show after.table = storage.table from sameTable] at stored
        exact .cons (stores_of_put isPut) stored

/-- Without commits in between, storing several records commits nothing. -/
theorem committed_putMany_of_manual
    (isManual : storage.policy = .manual)
    (records : List Record) :
    (storage.putMany records).2.committed = storage.committed := by
  have none : storage.committedCount (storage.storedCount records) = 0 := by
    rw [committedCount, isManual]
    split <;> rfl
  have committed := storage.committed_putMany records
  rwa [none] at committed

end Storage

namespace CommandLine

/-- Without commits in between, the records of a command are committed together or not at all. -/
theorem putRecords_of_manual
    {storage : Storage}
    (isManual : storage.policy = .manual)
    (records : List Record) :
    (∃ output, (putRecords records storage).1 = .ok output ∧
        Database.StoresAll storage.table storage.view records
          (putRecords records storage).2.committed) ∨
      ∃ error, (putRecords records storage).1 = .error error ∧
        (putRecords records storage).2.committed = storage.committed := by
  have committed := Storage.committed_putMany_of_manual isManual records
  rcases puts : storage.putMany records with ⟨error | ids, after⟩
  · right
    rw [puts] at committed
    simp only [putRecords, puts]
    exact ⟨error, rfl, committed⟩
  · rw [puts] at committed
    have settles := after.settles_commit
    simp only [putRecords, puts]
    generalize after.commit = result at settles
    cases settles with
    | waiting | lost => exact .inr ⟨_, rfl, committed⟩
    | published =>
        refine .inl ⟨_, rfl, ?_⟩
        rw [Storage.putMany] at puts
        split at puts
        · cases puts
        · have stored := Storage.storesAll_of_putEach (congrArg Prod.fst puts)
          rw [puts] at stored
          exact stored

/-- The database at a place has the rows that it had; at most a table was created. -/
def KeepsRows (before after : Workspace) (table : String) (place : Path.Place) : Prop :=
  after.database place = before.database place ∨
    ∃ old new,
      before.database place = .ok old ∧ after.database place = .ok new ∧
        Database.Provides table old new ∧ ∀ name id, new.row? name id = old.row? name id

/-- At a place records were stored in a table, which may have been created before. -/
def StoresRecords
    (before after : Workspace)
    (table : String)
    (records : List Record)
    (place : Path.Place) :
    Prop :=
  ∃ old provided new,
    before.database place = .ok old ∧ after.database place = .ok new ∧
      Database.Provides table old provided ∧
        (∀ name id, provided.row? name id = old.row? name id) ∧
          Database.StoresAll table provided records new

/-- The records of a command without commits in between are stored in its file, or none is. -/
theorem Context.withStorage_putRecords_of_manual
    {context : Context}
    {workspace opened : Workspace}
    {fields : Option String}
    {policy : Option AutoCommit}
    {storage : Storage}
    (isManual : policy.getD context.settings.policy = .manual)
    (opens : context.openStorage workspace fields policy = (.ok storage, opened))
    (records : List Record) :
    let put := context.withStorage workspace fields policy (putRecords records)
    ((∃ output, put.1 = .ok output) ∧
        ∀ place, storage.connection.place = some place → Path.isInMemory place = false →
          StoresRecords workspace put.2 storage.table records place) ∨
      ((∃ error, put.1 = .error error) ∧
        ∀ place, storage.connection.place = some place → Path.isInMemory place = false →
          KeepsRows workspace put.2 storage.table place) := by
  intro put
  rcases of_openStorage opens with ⟨begins, isPolicy, _⟩
  have settled := Session.settled_of_opens begins
  let session : Session := ⟨storage, opened⟩
  have result : put.1 = (putRecords records session.current).1 := by
    rw [show put = _ from withStorage_of_ok opens (putRecords records)]
    rfl
  have holds (place : Path.Place) (isPlace : storage.connection.place = some place)
      (onDisk : Path.isInMemory place = false) :
      put.2.database place = .ok (putRecords records session.current).2.committed := by
    refine (database_withStorage opens (worksByStages_putRecords records) onDisk).trans ?_
    rw [if_pos isPlace]
    rfl
  have sameCommitted : session.current.committed = storage.committed := by
    rw [settled.current_eq]
  have sameView : session.current.view = storage.committed := by
    rw [settled.view_current]
    rcases Session.exists_opened_of_opens begins with ⟨_, _, _, _, _, _, _, isStorage⟩
    rw [show session.storage = _ from isStorage, show storage = _ from isStorage]
    rfl
  have samePolicy : session.current.policy = .manual := isPolicy.trans isManual
  rcases putRecords_of_manual samePolicy records with
    ⟨output, succeeds, stored⟩ | ⟨error, fails, same⟩
  · refine .inl ⟨⟨output, result.trans succeeds⟩, fun place isPlace onDisk => ?_⟩
    rcases Storage.provides_of_opens begins isPlace with ⟨old, isOld, provides⟩
    rw [sameView] at stored
    exact ⟨old, _, _, isOld, holds place isPlace onDisk, provides, provides.row?_eq, stored⟩
  · refine .inr ⟨⟨error, result.trans fails⟩, fun place isPlace onDisk => ?_⟩
    rcases Storage.provides_of_opens begins isPlace with ⟨old, isOld, provides⟩
    have isNew := holds place isPlace onDisk
    rw [same, sameCommitted] at isNew
    exact .inr ⟨old, _, isOld, isNew, provides, provides.row?_eq⟩

/-! ## What a request is about -/

namespace Request

variable {request : Request} {workspace : Workspace} {location : Location} {place : Path.Place}

/-- A request is about a table of the database in a file. -/
def Addresses
    (request : Request)
    (workspace : Workspace)
    (location : Location)
    (place : Path.Place) :
    Prop :=
  ∃ settings uri address,
    Settings.discover workspace request.settings Path.here = .ok settings ∧
      Context.location ⟨request.uri, settings⟩ = .ok uri ∧
        Location.parse uri = .ok location ∧
          Address.read location.database = .ok address ∧ address.home.filePlace? = some place

theorem Addresses.onDisk (addresses : request.Addresses workspace location place) :
    Path.isInMemory place = false := by
  rcases addresses with ⟨_, _, _, _, _, _, _, isFile⟩
  exact (Home.filePlace?_eq_some_iff.mp isFile).2

variable
    {settings : Settings}
    {fields : Option String}
    {policy : Option AutoCommit}
    {storage : Storage}
    {opened : Workspace}
    (discovers : Settings.discover workspace request.settings Path.here = .ok settings)
    (opens :
      Context.openStorage ⟨request.uri, settings⟩ workspace fields policy = (.ok storage, opened))

include discovers opens

/-- The storage of a command is the one that the request is about. -/
theorem Addresses.storage_eq (addresses : request.Addresses workspace location place) :
    storage.location = location ∧ storage.connection.place = some place := by
  rcases addresses with ⟨known, uri, address, isKnown, isUri, parsed, isAddress, isFile⟩
  rcases (Context.of_openStorage opens).2.2 with ⟨own, ownAddress, isOwn, ownParsed, reads, isPlace⟩
  cases discovers.symm.trans isKnown
  cases isUri.symm.trans isOwn
  cases parsed.symm.trans ownParsed
  cases isAddress.symm.trans reads
  exact ⟨rfl, isPlace.trans (Home.filePlace?_eq_some_iff.mp isFile).1⟩

theorem addresses_of_openStorage
    (isPlace : storage.connection.place = some place)
    (onDisk : Path.isInMemory place = false) :
    request.Addresses workspace storage.location place := by
  rcases (Context.of_openStorage opens).2.2 with ⟨uri, address, isUri, parsed, reads, isOwn⟩
  exact
    ⟨settings, uri, address, discovers, isUri, parsed, reads,
      Home.filePlace?_eq_some_iff.mpr ⟨isOwn.symm.trans isPlace, onDisk⟩⟩

end Request

/-! ## All or nothing -/

/-- A command that fails before it has a storage leaves every file as it was. -/
theorem keepsRows_of_run_eq_error
    {arguments : List String}
    {request : Request}
    (asked : Request.read arguments = .ok request)
    {input : String}
    {workspace opened : Workspace}
    {error : Error}
    (fails : request.run input workspace = (.error error, opened))
    (same :
      ∀ place, Path.isInMemory place = false →
        opened.database place = workspace.database place) :
    (run arguments input workspace).1.code = 1 ∧
      (run arguments input workspace).2 = opened ∧
        (∀ location place, request.Addresses workspace location place →
            KeepsRows workspace (run arguments input workspace).2 location.table place) ∧
          ∀ place, Path.isInMemory place = false →
            (run arguments input workspace).2.database place = workspace.database place := by
  have isRun := run_of_read asked input workspace
  rw [fails] at isRun
  rw [isRun]
  exact ⟨rfl, rfl, fun location place addresses => .inl (same place addresses.onDisk), same⟩

/-- A request whose storage is opened stores its records in its file, or none of them. -/
theorem stores_or_keeps_of_openStorage
    {request : Request}
    {workspace opened : Workspace}
    {settings : Settings}
    (discovers : Settings.discover workspace request.settings Path.here = .ok settings)
    {fields : Option String}
    {policy : Option AutoCommit}
    (isManual : policy.getD settings.policy = .manual)
    {storage : Storage}
    (opens :
      Context.openStorage ⟨request.uri, settings⟩ workspace fields policy = (.ok storage, opened))
    (records : List Record) :
    let put :=
      Context.withStorage ⟨request.uri, settings⟩ workspace fields policy (putRecords records)
    (((∃ output, put.1 = .ok output) ∧
          ∀ location place, request.Addresses workspace location place →
            StoresRecords workspace put.2 location.table records place) ∨
        ((∃ error, put.1 = .error error) ∧
          ∀ location place, request.Addresses workspace location place →
            KeepsRows workspace put.2 location.table place)) ∧
      ∀ place, Path.isInMemory place = false →
        (∀ location, ¬ request.Addresses workspace location place) →
          put.2.database place = workspace.database place := by
  intro put
  constructor
  · rcases Context.withStorage_putRecords_of_manual isManual opens records with
      ⟨succeeds, stores⟩ | ⟨fails, keeps⟩
    · refine .inl ⟨succeeds, fun location place addresses => ?_⟩
      rcases addresses.storage_eq discovers opens with ⟨rfl, isPlace⟩
      exact stores place isPlace addresses.onDisk
    · refine .inr ⟨fails, fun location place addresses => ?_⟩
      rcases addresses.storage_eq discovers opens with ⟨rfl, isPlace⟩
      exact keeps place isPlace addresses.onDisk
  · intro place onDisk elsewhere
    have left := Context.database_withStorage opens (worksByStages_putRecords records) onDisk
    rwa [if_neg fun isPlace =>
      elsewhere _ (Request.addresses_of_openStorage discovers opens isPlace onDisk)] at left

/--
A put whose records are not committed one by one stores all of them or none.

A text that is no record keeps the whole workspace as it is.  Otherwise the
command succeeds and the file has all records in addition, in order, but for
those that a rule of the table leaves out, or it fails and the file has the rows
that it had.  Whatever happens, no other file with a database changes.
-/
theorem manual_put_is_all_or_nothing
    {arguments : List String}
    {request : Request}
    (asked : Request.read arguments = .ok request)
    {fields : Option String}
    {policy : Option AutoCommit}
    {texts : List String}
    (isPut : request.task = .put fields policy texts)
    (input : String)
    (workspace : Workspace)
    (isManual :
      ∀ settings, Settings.discover workspace request.settings Path.here = .ok settings →
        policy.getD settings.policy = .manual) :
    let given := if texts.isEmpty then filledLines input else texts
    let answer := (run arguments input workspace).1
    let after := (run arguments input workspace).2
    ((∃ text ∈ given, ∀ record, Record.read text ≠ .ok record) →
        answer.code = 1 ∧ after = workspace) ∧
      ((answer.code = 0 ∧
          ∃ records,
            List.Forall₂ (fun text record => Record.read text = .ok record) given records ∧
              ∀ location place, request.Addresses workspace location place →
                StoresRecords workspace after location.table records place) ∨
        (answer.code = 1 ∧
          ∀ location place, request.Addresses workspace location place →
            KeepsRows workspace after location.table place)) ∧
        ∀ place, Path.isInMemory place = false →
          (∀ location, ¬ request.Addresses workspace location place) →
            after.database place = workspace.database place := by
  intro given answer after
  cases discovers : Settings.discover workspace request.settings Path.here with
  | error error =>
      have fails : request.run input workspace = (.error error, workspace) := by
        rw [Request.run, discovers]
      rcases keepsRows_of_run_eq_error asked fails fun _ _ => rfl with
        ⟨code, unchanged, keeps, others⟩
      exact
        ⟨fun _ => ⟨code, unchanged⟩, .inr ⟨code, keeps⟩, fun place onDisk _ => others place onDisk⟩
  | ok settings =>
      cases reads : readRecords given with
      | error error =>
          have fails : request.run input workspace = (.error error, workspace) := by
            rw [Request.run_of_discover discovers, isPut]
            exact perform_put_of_error reads
          rcases keepsRows_of_run_eq_error asked fails fun _ _ => rfl with
            ⟨code, unchanged, keeps, others⟩
          exact
            ⟨fun _ => ⟨code, unchanged⟩, .inr ⟨code, keeps⟩,
              fun place onDisk _ => others place onDisk⟩
      | ok records =>
          have areRecords :
              List.Forall₂ (fun text record => Record.read text = .ok record) given records :=
            (Pointwise.mapM_eq_ok_iff.mp reads).imp fun _ _ => Outcome.mapError_eq_ok_iff.mp
          have performed :
              request.run input workspace =
                Context.withStorage ⟨request.uri, settings⟩ workspace fields policy
                  (putRecords records) := by
            rw [Request.run_of_discover discovers, isPut]
            exact perform_put_of_ok reads
          refine ⟨?_, ?_⟩
          · rintro ⟨text, member, isNone⟩
            rcases Pointwise.exists_right areRecords member with ⟨record, _, isRecord⟩
            exact absurd isRecord (isNone record)
          rcases opens : Context.openStorage ⟨request.uri, settings⟩ workspace fields policy with
            ⟨error | storage, opened⟩
          · have fails : request.run input workspace = (.error error, opened) :=
              performed.trans (Context.withStorage_of_error opens _)
            rcases
                keepsRows_of_run_eq_error asked fails fun _ =>
                  (Context.failsToOpen_of_openStorage opens).database_eq with
              ⟨code, _, keeps, others⟩
            exact ⟨.inr ⟨code, keeps⟩, fun place onDisk _ => others place onDisk⟩
          · have isRun := run_of_read asked input workspace
            rw [performed] at isRun
            rw [show answer = _ from congrArg Prod.fst isRun,
              show after = _ from congrArg Prod.snd isRun]
            rcases
                stores_or_keeps_of_openStorage discovers (isManual settings discovers) opens
                  records with
              ⟨⟨⟨output, succeeds⟩, stores⟩ | ⟨⟨error, fails⟩, keeps⟩, others⟩
            · rw [succeeds]
              exact ⟨.inl ⟨rfl, records, areRecords, stores⟩, others⟩
            · rw [fails]
              exact ⟨.inr ⟨rfl, keeps⟩, others⟩

/-- A person to be stored, and one to be overwritten that is not there. -/
def personAndStranger : List String :=
  ["\x7b\"name\":\"Ada\"\x7d", "\x7b\"_id\":9,\"name\":\"Bob\"\x7d"]

/-- Arguments for storing them in the file `d.db`, to be committed together. -/
def putBoth : List String :=
  ["put", "-u", "sqlite://d.db:t", "-f", "name", "-a", "manual"] ++ personAndStranger

/-- Where one record cannot be stored, the one before it is not stored either. -/
theorem person_before_stranger_is_not_stored :
    (run putBoth "" .empty).1.code = 1 ∧
      ∀ new, (run putBoth "" .empty).2.database ["d.db"] = .ok new →
        ∀ name id, new.row? name id = none := by
  let request : Request :=
    { uri := some "sqlite://d.db:t"
      settings := none
      task := .put (some "name") (some .manual) personAndStranger }
  have asked : Request.read putBoth = .ok request := by decide +kernel
  have unset : Settings.discover .empty none Path.here = .ok .unset :=
    Outcome.eq_ok_of_toOption (by decide +kernel)
  have fails : (run putBoth "" .empty).1.code = 1 := by decide +kernel
  refine ⟨fails, fun new isNew name id => ?_⟩
  rcases manual_put_is_all_or_nothing asked rfl "" .empty fun _ _ => rfl with
    ⟨_, ⟨succeeds, _⟩ | ⟨_, keeps⟩, _⟩
  · rw [fails] at succeeds
    contradiction
  · let location : Location := ⟨.sqlite, "d.db", "t"⟩
    have parsed : Location.parse "sqlite://d.db:t" = .ok location := by decide +kernel
    have addresses : request.Addresses .empty location ["d.db"] :=
      ⟨.unset, _, ⟨.file "d.db", .creating, false, false⟩, unset, rfl, parsed,
        by decide +kernel, by decide +kernel⟩
    have isEmpty : Workspace.empty.database ["d.db"] = .ok .empty := by decide +kernel
    rcases keeps location ["d.db"] addresses with same | ⟨old, provided, isOld, holds, _, sameRows⟩
    · cases isNew.symm.trans (same.trans isEmpty)
      rfl
    · cases isNew.symm.trans holds
      cases isOld.symm.trans isEmpty
      exact sameRows name id

/-- A file with a table that leaves out rows without a name. -/
def lenient : Workspace :=
  let table : Table :=
    { name := "t"
      columns := ["name", "age"]
      rows := []
      definition := some "CREATE TABLE t (name NOT NULL ON CONFLICT IGNORE, age)"
      affinities := []
      key := none
      rules := [.present 0 .ignore] }
  Workspace.empty.setEntry ["x.db"] (.file (.database ⟨[table], []⟩))

/-- Arguments for storing a person with a name and one without, to be committed together. -/
def putNameless : List String :=
  ["put", "-u", "sqlite://x.db:t", "-a", "manual", "\x7b\"name\":\"Ada\"\x7d", "\x7b\"age\":1\x7d"]

/-- A record that its table leaves out is reported as stored. -/
theorem nameless_is_reported_as_stored :
    (run putNameless "" lenient).1 = ⟨0, "Stored 2 record(s) in t\n", ""⟩ ∧
      ((run putNameless "" lenient).2.database ["x.db"]).toOption.map
          (fun database => (database.row? "t" 1, database.row? "t" 2)) =
        some (some [("name", .ofValue (.text "Ada")), ("age", .null)], none) := by
  decide +kernel

end CommandLine

end RecordStore
