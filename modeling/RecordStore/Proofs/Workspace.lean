import RecordStore.Proofs.Outcome
import RecordStore.Workspace.Hindrance

/-!
# Files and connections

What is put at a place is found there, and nothing else moves.  A connection
that was opened has its database at a place where a file can stand, or keeps
it to itself.  Saving a database puts it there and leaves alone what could
hinder reading and writing.

Opening and closing connections leaves all databases as they are.

Main statements: `Workspace.database_save`, `Workspace.isFilePlace_of_connect` and
`Workspace.unchanged_of_connect`.
-/

namespace RecordStore

namespace Path

/-- A place where a file can stand: neither the start nor the root. -/
def IsFilePlace (place : Place) : Prop :=
  ¬ (place = [] ∨ place = [root])

end Path

/-! ## Lists with one item for each place -/

section Keyed

variable {α : Type} (placeOf : α → Path.Place) (items : List α)

theorem find?_cleared (place : Path.Place) :
    (items.filter fun known => placeOf known != place).find?
        (fun known => placeOf known == place) = none := by
  apply List.find?_eq_none.mpr
  intro known member
  simpa using (List.mem_filter.mp member).2

theorem find?_cleared_other
    {place other : Path.Place}
    (apart : other ≠ place) :
    (items.filter fun known => placeOf known != place).find?
        (fun known => placeOf known == other) =
      items.find? fun known => placeOf known == other := by
  rw [List.find?_filter]
  congr 1
  funext known
  by_cases same : placeOf known = other
  · simp [same, apart]
  · simp [same]

variable (item : α)

theorem find?_replaced :
    (items.filter (fun known => placeOf known != placeOf item) ++ [item]).find?
        (fun known => placeOf known == placeOf item) = some item := by
  rw [List.find?_append, find?_cleared]
  simp

theorem find?_replaced_other
    {other : Path.Place}
    (apart : other ≠ placeOf item) :
    (items.filter (fun known => placeOf known != placeOf item) ++ [item]).find?
        (fun known => placeOf known == other) =
      items.find? fun known => placeOf known == other := by
  have notNew : (placeOf item == other) = false := by simpa using Ne.symm apart
  rw [List.find?_append, find?_cleared_other placeOf items apart, List.find?_singleton, notNew,
    if_neg Bool.false_ne_true, Option.or_none]

end Keyed

namespace Workspace

variable {workspace : Workspace} {place : Path.Place}

/-! ## Places -/

theorem entry?_setEntry_self
    (isFilePlace : Path.IsFilePlace place)
    (entry : Entry) :
    Workspace.entry? (workspace.setEntry place entry) place = some entry := by
  unfold Workspace.entry?
  rw [if_neg isFilePlace, setEntry, find?_replaced Prod.fst workspace.entries (place, entry)]
  rfl

theorem entry?_setEntry_other
    {other : Path.Place}
    (apart : other ≠ place)
    (entry : Entry) :
    Workspace.entry? (workspace.setEntry place entry) other = workspace.entry? other := by
  unfold Workspace.entry?
  rw [setEntry, find?_replaced_other Prod.fst workspace.entries (place, entry) apart]

theorem isDirectory_of_setEntry_file
    (isFilePlace : Path.IsFilePlace place)
    {content : Content}
    {other : Path.Place}
    (isDirectory : (workspace.setEntry place (.file content)).isDirectory other = true) :
    workspace.isDirectory other = true := by
  by_cases same : other = place
  · rw [Workspace.isDirectory, same, entry?_setEntry_self isFilePlace] at isDirectory
    contradiction
  · rw [Workspace.isDirectory, entry?_setEntry_other same] at isDirectory
    exact isDirectory

/-- What stands at a place depends on the entries of a workspace alone. -/
theorem entry?_congr
    {other : Workspace}
    (same : workspace.entries = other.entries)
    (place : Path.Place) :
    Workspace.entry? workspace place = Workspace.entry? other place := by
  unfold Workspace.entry?
  rw [same]

theorem database_congr
    {other : Workspace}
    (same : workspace.entries = other.entries)
    (place : Path.Place) :
    workspace.database place = other.database place := by
  rw [database, database, entry?_congr same]

theorem database_of_file
    {content : Content}
    (stands : workspace.entry? place = some (.file content)) :
    workspace.database place = databaseOf content := by
  rw [database, stands]

/-! ## Saving -/

/-- Saving a database puts it at the place of its connection. -/
theorem database_save
    {connection : Connection}
    (isPlace : connection.place = some place)
    (isFilePlace : Path.IsFilePlace place)
    {known database : Database}
    (reads : workspace.database place = .ok known)
    (unchanged : connection.isFrozen = true → database = known) :
    (workspace.save connection database).database place = .ok database := by
  simp only [save, isPlace, reads]
  split
  · next kept =>
      rcases Bool.or_eq_true_iff.mp kept with same | frozen
      · rw [reads, of_decide_eq_true same]
      · rw [reads, unchanged frozen]
  · exact database_of_file (entry?_setEntry_self isFilePlace _)

/-- Saving leaves everything alone but the file of the connection. -/
theorem save_eq_or
    (workspace : Workspace)
    {connection : Connection}
    (isPlace : connection.place = some place)
    (database : Database) :
    workspace.save connection database = workspace ∨
      (workspace.database place ≠ .ok database ∧ connection.isFrozen = false ∧
        workspace.save connection database =
          workspace.setEntry place (.file (.database database))) := by
  simp only [save, isPlace]
  split
  · next known reads =>
      split
      · exact .inl rfl
      · next isNew =>
          simp only [Bool.or_eq_true, decide_eq_true_eq, not_or, Bool.not_eq_true] at isNew
          refine .inr ⟨?_, isNew.2, rfl⟩
          intro same
          exact isNew.1 (Except.ok.inj (reads.symm.trans same))
  · exact .inl rfl

/-- What is there already is not written again. -/
theorem save_of_known
    {connection : Connection}
    (isPlace : connection.place = some place)
    {database : Database}
    (isKnown : workspace.database place = .ok database) :
    workspace.save connection database = workspace := by
  rcases workspace.save_eq_or isPlace database with same | ⟨isNew, _⟩
  · exact same
  · exact absurd isKnown isNew

theorem database_setEntry_eq_or
    (workspace : Workspace)
    (place : Path.Place)
    (content : Database)
    (other : Path.Place) :
    (workspace.setEntry place (.file (.database content))).database other =
        workspace.database other ∨
      (workspace.setEntry place (.file (.database content))).database other = .ok content := by
  by_cases same : other = place
  · rw [same]
    by_cases isDirectory : place = [] ∨ place = [Path.root]
    · left
      unfold database Workspace.entry?
      rw [if_pos isDirectory, if_pos isDirectory]
    · exact .inr (database_of_file (entry?_setEntry_self isDirectory _))
  · left
    rw [database, entry?_setEntry_other same, database]

/-- At every place stands what was there, or what was saved. -/
theorem database_save_eq_or
    (workspace : Workspace)
    (connection : Connection)
    (saved : Database)
    (place : Path.Place) :
    (workspace.save connection saved).database place = workspace.database place ∨
      (workspace.save connection saved).database place = .ok saved := by
  cases isPlace : connection.place with
  | none =>
      left
      simp only [save, isPlace]
  | some own =>
      rcases workspace.save_eq_or isPlace saved with same | ⟨_, _, written⟩
      · exact .inl (by rw [same])
      · rw [written]
        exact workspace.database_setEntry_eq_or own saved place

theorem shares_save (workspace : Workspace) (connection : Connection) (database : Database) :
    (workspace.save connection database).shares = workspace.shares := by
  cases isPlace : connection.place with
  | none => simp only [save, isPlace]
  | some place =>
      rcases workspace.save_eq_or isPlace database with same | ⟨_, _, written⟩
      · rw [same]
      · rw [written]
        rfl

theorem isDirectory_of_save
    {connection : Connection}
    (isPlace : connection.place = some place)
    (isFilePlace : Path.IsFilePlace place)
    {database : Database}
    {other : Path.Place}
    (isDirectory : (workspace.save connection database).isDirectory other = true) :
    workspace.isDirectory other = true := by
  rcases workspace.save_eq_or isPlace database with same | ⟨_, _, written⟩
  · rwa [same] at isDirectory
  · rw [written] at isDirectory
    exact isDirectory_of_setEntry_file isFilePlace isDirectory

/-! ## Shares -/

theorem share?_setShare_self (share : Share) :
    (workspace.setShare share).share? share.place = some share :=
  find?_replaced Share.place workspace.shares share

theorem share?_setShare_other
    {share : Share}
    {other : Path.Place}
    (apart : other ≠ share.place) :
    (workspace.setShare share).share? other = workspace.share? other :=
  find?_replaced_other Share.place workspace.shares share apart

theorem place_of_share?
    {share : Share}
    (found : workspace.share? place = some share) :
    share.place = place := by
  simpa using List.find?_some found

theorem share?_congr
    {other : Workspace}
    (same : workspace.shares = other.shares)
    (place : Path.Place) :
    workspace.share? place = other.share? place := by
  rw [share?, share?, same]

theorem entries_setChanging
    (workspace : Workspace)
    (connection : Connection)
    (table : Option String) :
    (workspace.setChanging connection table).entries = workspace.entries := by
  rw [setChanging]
  split
  · rfl
  · split
    · rfl
    · split <;> rfl

theorem setChanging_of_apart
    {connection : Connection}
    (apart : connection.isShared = false)
    (table : Option String) :
    workspace.setChanging connection table = workspace := by
  rw [setChanging]
  split
  · rfl
  · split
    · rfl
    · rw [apart, if_neg Bool.false_ne_true]

/-- What a connection that shares its database makes known is what the others know. -/
theorem share?_setChanging
    {connection : Connection}
    (isPlace : connection.place = some place)
    (isShared : connection.isShared = true)
    {share : Share}
    (found : workspace.share? place = some share)
    (table : Option String) :
    (workspace.setChanging connection table).share? place =
      some { share with changing := table } := by
  simp only [setChanging, isPlace, found, isShared]
  have samePlace := place_of_share? found
  subst samePlace
  exact share?_setShare_self { share with changing := table }

/-! ## Opening -/

theorem isFilePlace_of_ne_directory
    (workspace : Workspace)
    (isNoDirectory : workspace.entry? place ≠ some .directory) :
    Path.IsFilePlace place := by
  intro isDirectory
  apply isNoDirectory
  unfold Workspace.entry?
  exact if_pos isDirectory

theorem isFilePlace_of_openHome
    {name : String}
    {address : Address}
    {opened : Workspace}
    (opens : workspace.openHome name address = .ok opened)
    (isPlace : address.home.place? = some place) :
    Path.IsFilePlace place := by
  cases home : address.home with
  | connection =>
      rw [home] at isPlace
      contradiction
  | shared | memoryFile =>
      rw [home] at isPlace
      cases isPlace
      simp [Path.IsFilePlace, Path.inMemory]
  | file file =>
      rw [home] at isPlace
      cases isPlace
      simp only [openHome, home, openFile] at opens
      split at opens
      · contradiction
      · apply isFilePlace_of_ne_directory workspace
        intro isDirectory
        rw [isDirectory] at opens
        contradiction

theorem join_eq (workspace : Workspace) (connection : Connection) :
    (workspace.join connection).1.place = connection.place ∧
      (workspace.join connection).1.isShared = connection.isShared := by
  rw [join]
  split
  · exact ⟨rfl, rfl⟩
  · split
    · split
      · exact ⟨rfl, rfl⟩
      · rw [adopt]
        split <;> exact ⟨rfl, rfl⟩
    · exact ⟨rfl, rfl⟩

/-- Whoever is connected has read an address, opened its home and joined those that are there. -/
theorem of_connect
    {name : String}
    {connection : Connection}
    {opened : Workspace}
    (connects : workspace.connect name = (.ok connection, opened)) :
    ∃ address reached,
      Path.nulIndex? name = none ∧
        Address.read name = .ok address ∧
          workspace.openHome name address = .ok reached ∧
            connection = (reached.join (.ofAddress address)).1 ∧
              opened = (reached.join (.ofAddress address)).2 := by
  rw [connect] at connects
  split at connects
  · cases connects
  · next noNul =>
      split at connects
      · cases connects
      · next address isAddress =>
          split at connects
          · cases connects
          · next reached opens =>
              cases connects
              exact ⟨address, reached, noNul, isAddress, opens, rfl, rfl⟩

/-- A connection that was opened has its database where a file can stand. -/
theorem isFilePlace_of_connect
    {name : String}
    {connection : Connection}
    {opened : Workspace}
    (connects : workspace.connect name = (.ok connection, opened))
    (isPlace : connection.place = some place) :
    Path.IsFilePlace place := by
  rcases of_connect connects with ⟨address, reached, _, _, opens, rfl, rfl⟩
  rw [(join_eq _ _).1] at isPlace
  exact isFilePlace_of_openHome opens isPlace

/-! ## Filling gaps -/

/-- Things are put only where nothing was, and no database comes with them. -/
structure Fills (before after : Workspace) : Prop where
  database_eq : ∀ place, after.database place = before.database place
  shares_eq : after.shares = before.shares
  holds_eq : after.holds = before.holds
  isFull_eq : after.isFull = before.isFull

theorem Fills.refl (workspace : Workspace) : Fills workspace workspace :=
  ⟨fun _ => rfl, rfl, rfl, rfl⟩

theorem Fills.trans
    {first second third : Workspace}
    (left : Fills first second)
    (right : Fills second third) :
    Fills first third :=
  ⟨fun place => (right.database_eq place).trans (left.database_eq place),
    right.shares_eq.trans left.shares_eq, right.holds_eq.trans left.holds_eq,
    right.isFull_eq.trans left.isFull_eq⟩

theorem fills_setEntry
    (isNone : Workspace.entry? workspace place = none)
    {entry : Entry}
    (isEmpty : ∀ content, entry = .file content → databaseOf content = .ok .empty) :
    Fills workspace (workspace.setEntry place entry) := by
  refine ⟨fun other => ?_, rfl, rfl, rfl⟩
  by_cases same : other = place
  · have isFilePlace : Path.IsFilePlace place := by
      apply isFilePlace_of_ne_directory workspace
      rw [isNone]
      simp
    rw [same, database, entry?_setEntry_self isFilePlace, database, isNone]
    cases entry with
    | directory => rfl
    | file content => exact isEmpty content rfl
  · rw [database, entry?_setEntry_other same, database]

theorem fills_makeDirectory
    {path : String}
    {made : Workspace}
    (makes : workspace.makeDirectory path = .ok made) :
    Fills workspace made := by
  rcases Outcome.bind_eq_ok_iff.mp makes with ⟨place, _, makes⟩
  split at makes
  · contradiction
  · next isNone =>
      cases makes
      exact fills_setEntry isNone fun _ isFile => by cases isFile

theorem fills_makeDirectories (workspace : Workspace) (paths : List String) :
    Fills workspace (workspace.makeDirectories paths).2 := by
  induction paths with
  | nil => exact .refl workspace
  | cons path others induction =>
      rw [makeDirectories]
      split
      · next made makes => exact fills_makeDirectory makes
      · split
        · next fault made fails =>
            rw [fails] at induction
            exact induction
        · next done made succeeds =>
            rw [succeeds] at induction
            split
            · next finished makes => exact induction.trans (fills_makeDirectory makes)
            · split <;> exact induction
      · split <;> exact .refl workspace

theorem fills_openHome
    {name : String}
    {address : Address}
    {opened : Workspace}
    (opens : workspace.openHome name address = .ok opened) :
    Fills workspace opened := by
  have emptyFile : databaseOf (.text "") = .ok .empty := rfl
  rw [openHome] at opens
  split at opens
  · rw [openFile] at opens
    split at opens
    · contradiction
    · split at opens
      · contradiction
      · cases opens
        exact .refl workspace
      · next isNone =>
          split at opens
          · cases opens
            exact fills_setEntry isNone fun _ isFile => by cases isFile; exact emptyFile
          · contradiction
  · split at opens
    · cases opens
      exact .refl workspace
    · cases opens
      rw [openMemory]
      split
      · exact .refl workspace
      · next isNone =>
          exact fills_setEntry isNone fun _ isFile => by cases isFile; rfl

/-! ## Connecting and disconnecting -/

theorem changing?_setShare (share : Share) (samePlace : share.place = place) :
    (workspace.setShare share).changing? place = share.changing := by
  rw [changing?, ← samePlace, share?_setShare_self]
  rfl

theorem changing?_clearShare : (workspace.clearShare place).changing? place = none := by
  have noShare : (workspace.clearShare place).share? place = none :=
    find?_cleared Share.place workspace.shares place
  rw [changing?, noShare]
  rfl

theorem database_join (workspace : Workspace) (connection : Connection) (place : Path.Place) :
    (workspace.join connection).2.database place = workspace.database place := by
  rw [join]
  split
  · rfl
  · split
    · split <;> rfl
    · rfl

/-- A connection that finds nobody at its place is what its address asks for. -/
theorem connection_of_connect
    {name : String}
    {connection : Connection}
    {opened : Workspace}
    (connects : workspace.connect name = (.ok connection, opened))
    (isPlace : connection.place = some place)
    (nobody : workspace.share? place = none) :
    ∃ address, Address.read name = .ok address ∧ connection = .ofAddress address := by
  rcases of_connect connects with ⟨address, reached, _, isAddress, opens, rfl, rfl⟩
  rw [(join_eq _ _).1] at isPlace
  rw [← share?_congr (fills_openHome opens).shares_eq] at nobody
  refine ⟨address, isAddress, ?_⟩
  simp only [join, isPlace, nobody]
  split <;> rfl

theorem eq_of_connect_eq_error
    {name : String}
    {fault : DatabaseFault}
    {opened : Workspace}
    (fails : workspace.connect name = (.error fault, opened)) :
    opened = workspace := by
  rw [connect] at fails
  split at fails
  · cases fails
    rfl
  · split at fails
    · cases fails
      rfl
    · split at fails
      · cases fails
        rfl
      · cases fails

/-- Whether a connection is opened or not, all databases are as they were. -/
theorem database_connect (workspace : Workspace) (name : String) (place : Path.Place) :
    (workspace.connect name).2.database place = workspace.database place := by
  rw [connect]
  split
  · rfl
  · split
    · rfl
    · split
      · rfl
      · next opens =>
          exact (database_join _ _ place).trans ((fills_openHome opens).database_eq place)

theorem changing?_join
    {connection : Connection}
    (isPlace : connection.place = some place) :
    (workspace.join connection).2.changing? place = workspace.changing? place := by
  simp only [join, isPlace]
  split
  · split
    · next isNone =>
        rw [changing?_setShare _ rfl, changing?, isNone]
        rfl
    · next share found =>
        have samePlace := place_of_share? found
        refine (changing?_setShare _ ?_).trans ?_
        · exact samePlace
        · rw [changing?, found]
          rfl
  · rfl

/-- A new connection to a database changes nothing in databases, nor what is being changed. -/
theorem unchanged_of_connect
    {name : String}
    {connection : Connection}
    {opened : Workspace}
    (connects : workspace.connect name = (.ok connection, opened))
    (isPlace : connection.place = some place) :
    (∀ other, opened.database other = workspace.database other) ∧
      opened.changing? place = workspace.changing? place := by
  rcases of_connect connects with ⟨address, reached, _, _, opens, rfl, rfl⟩
  have fills := fills_openHome opens
  rw [(join_eq _ _).1] at isPlace
  constructor
  · exact fun other => (database_join _ _ other).trans (fills.database_eq other)
  · rw [changing?_join isPlace, changing?, changing?, share?_congr fills.shares_eq]

theorem join_eq_shares (workspace : Workspace) (connection : Connection) :
    (workspace.join connection).2 =
      { workspace with shares := (workspace.join connection).2.shares } := by
  rw [join]
  split
  · rfl
  · split
    · split <;> rfl
    · rfl

/-- A new connection locks nothing, and leaves alone how full the disk is. -/
theorem holds_connect
    {name : String}
    {connection : Connection}
    {opened : Workspace}
    (connects : workspace.connect name = (.ok connection, opened)) :
    opened.holds = workspace.holds ∧ opened.isFull = workspace.isFull := by
  rcases of_connect connects with ⟨address, reached, _, _, opens, rfl, rfl⟩
  rw [join_eq_shares]
  exact ⟨(fills_openHome opens).holds_eq, (fills_openHome opens).isFull_eq⟩

/-- A connection that ends leaves alone what others have locked, and how full the disk is. -/
theorem disconnect_eq_known (workspace : Workspace) (connection : Connection) :
    workspace.disconnect connection =
      { workspace with
        entries := (workspace.disconnect connection).entries
        shares := (workspace.disconnect connection).shares } := by
  rw [disconnect]
  split
  · rfl
  · split
    · split
      · rfl
      · split
        · rfl
        · split <;> rfl
    · rfl

/-- A connection to a file leaves the file behind as it is. -/
theorem database_disconnect
    {connection : Connection}
    (isPlace : connection.place = some place)
    (onDisk : Path.isInMemory place = false)
    (other : Path.Place) :
    (workspace.disconnect connection).database other = workspace.database other := by
  simp only [disconnect, isPlace, onDisk]
  split
  · split
    · rfl
    · split <;> rfl
  · rfl

theorem database_clearEntry_other
    (workspace : Workspace)
    {other : Path.Place}
    (apart : other ≠ place) :
    (workspace.clearEntry place).database other = workspace.database other := by
  unfold database Workspace.entry?
  rw [clearEntry, find?_cleared_other Prod.fst workspace.entries apart]

/-- Every connection leaves the files of all databases behind as they are. -/
theorem database_disconnect_of_onDisk
    (workspace : Workspace)
    (connection : Connection)
    (onDisk : Path.isInMemory place = false) :
    (workspace.disconnect connection).database place = workspace.database place := by
  cases isPlace : connection.place with
  | none => simp only [disconnect, isPlace]
  | some own =>
      cases inMemory : Path.isInMemory own with
      | false => exact database_disconnect isPlace inMemory place
      | true =>
          have apart : place ≠ own := by
            rintro rfl
            rw [onDisk] at inMemory
            contradiction
          simp only [disconnect, isPlace, inMemory]
          split
          · split
            · rfl
            · split
              · rfl
              · rw [if_pos trivial]
                exact (workspace.clearShare own).database_clearEntry_other apart
          · rfl

/-- Where nothing is left there is an empty database. -/
theorem database_clearEntry_eq_or (workspace : Workspace) (place other : Path.Place) :
    (workspace.clearEntry place).database other = workspace.database other ∨
      (workspace.clearEntry place).database other = .ok .empty := by
  by_cases same : other = place
  · right
    unfold database Workspace.entry?
    rw [same, clearEntry, find?_cleared]
    by_cases isDirectory : place = [] ∨ place = [Path.root]
    · rw [if_pos isDirectory]
    · rw [if_neg isDirectory]
      rfl
  · exact .inl (workspace.database_clearEntry_other same)

theorem database_disconnect_eq_or
    (workspace : Workspace)
    (connection : Connection)
    (other : Path.Place) :
    (workspace.disconnect connection).database other = workspace.database other ∨
      (workspace.disconnect connection).database other = .ok .empty := by
  rw [disconnect]
  split
  · exact .inl rfl
  · next place _ =>
      split
      · split
        · exact .inl rfl
        · split
          · exact .inl rfl
          · dsimp only
            split
            · exact (workspace.clearShare place).database_clearEntry_eq_or place other
            · exact .inl rfl
      · exact .inl rfl

theorem changing?_disconnect
    {connection : Connection}
    (isPlace : connection.place = some place)
    (onDisk : Path.isInMemory place = false)
    (isQuiet : workspace.changing? place = none) :
    (workspace.disconnect connection).changing? place = none := by
  simp only [disconnect, isPlace, onDisk]
  split
  · split
    · exact isQuiet
    · next share found =>
        have notChanging : share.changing = none := by
          rw [changing?, found] at isQuiet
          exact isQuiet
        have samePlace := place_of_share? found
        split
        · refine (changing?_setShare _ ?_).trans notChanging
          exact samePlace
        · exact changing?_clearShare
  · exact isQuiet

/-! ## What others are changing -/

/-- Whoever is changing something finds nothing changed by others. -/
theorem changedElsewhere?_of_changing (workspace : Workspace) (connection : Connection) :
    workspace.changedElsewhere? connection true = none := by
  rw [changedElsewhere?, Bool.not_true, Bool.and_false, if_neg Bool.false_ne_true]

/-- Where nobody is changing anything, others are not. -/
theorem changedElsewhere?_of_isQuiet
    {connection : Connection}
    (isPlace : connection.place = some place)
    (isQuiet : workspace.changing? place = none)
    (isChanging : Bool) :
    workspace.changedElsewhere? connection isChanging = none := by
  rw [changedElsewhere?, isPlace]
  split
  · exact isQuiet
  · rfl

/-! ## The only connection -/

/-- Nobody uses the database at a place, unless it is a connection, and then it is the only one. -/
def IsAlone (workspace : Workspace) (connection : Connection) (place : Path.Place) : Prop :=
  ∀ share, workspace.share? place = some share →
    connection.place = some place ∧ counts connection place = true ∧ share.users ≤ 1

theorem IsAlone.congr
    {connection : Connection}
    (alone : workspace.IsAlone connection place)
    {other : Workspace}
    (same : other.share? place = workspace.share? place) :
    other.IsAlone connection place :=
  fun share found => alone share (same.symm.trans found)

theorem share?_clearShare_other
    {own : Path.Place}
    (apart : place ≠ own) :
    (workspace.clearShare own).share? place = workspace.share? place :=
  find?_cleared_other Share.place workspace.shares apart

/-- Where nobody was connected, a connection that joins is the only one. -/
theorem isAlone_join
    (nobody : workspace.share? place = none)
    (connection : Connection) :
    (workspace.join connection).2.IsAlone (workspace.join connection).1 place := by
  rcases workspace.join_eq connection with ⟨samePlace, sameSharing⟩
  have sameCounts :
      counts (workspace.join connection).1 place = counts connection place := by
    rw [counts, counts, sameSharing]
  intro share found
  rw [samePlace, sameCounts]
  rw [join] at found
  split at found
  · cases nobody.symm.trans found
  · next own isOwn =>
      by_cases same : own = place
      · subst same
        split at found
        · next isCounted =>
            rw [nobody] at found
            cases found.symm.trans (share?_setShare_self _)
            exact ⟨isOwn, isCounted, Nat.le_refl 1⟩
        · cases nobody.symm.trans found
      · -- The share that is made is one of another place.
        exfalso
        have apart : place ≠ own := Ne.symm same
        split at found
        · split at found
          · cases nobody.symm.trans ((share?_setShare_other apart).symm.trans found)
          · next known isKnown =>
              have isOther : place ≠ known.place := place_of_share? isKnown ▸ apart
              have unchanged :
                  (workspace.setShare { known with users := known.users + 1 }).share? place =
                    workspace.share? place :=
                share?_setShare_other isOther
              cases nobody.symm.trans (unchanged.symm.trans found)
        · cases nobody.symm.trans found

theorem isAlone_of_connect
    (nobody : workspace.share? place = none)
    {name : String}
    {connection : Connection}
    {opened : Workspace}
    (connects : workspace.connect name = (.ok connection, opened)) :
    opened.IsAlone connection place := by
  rcases of_connect connects with ⟨address, reached, _, _, opens, rfl, rfl⟩
  refine isAlone_join ?_ _
  rw [share?_congr (fills_openHome opens).shares_eq]
  exact nobody

theorem IsAlone.setChanging
    {connection : Connection}
    (alone : workspace.IsAlone connection place)
    (table : Option String) :
    (workspace.setChanging connection table).IsAlone connection place := by
  rw [Workspace.setChanging]
  split
  · exact alone
  · next own _ =>
      split
      · exact alone
      · next share found =>
          split
          · have samePlace := place_of_share? found
            by_cases same : place = own
            · subst same
              intro other isOther
              rw [← samePlace] at isOther
              cases isOther.symm.trans (share?_setShare_self { share with changing := table })
              exact alone share found
            · exact alone.congr (share?_setShare_other (samePlace ▸ same))
          · exact alone

/-- When the only connection leaves, nobody is connected. -/
theorem share?_disconnect
    {connection : Connection}
    (alone : workspace.IsAlone connection place) :
    (workspace.disconnect connection).share? place = none := by
  have nobody (elsewhere : connection.place ≠ some place) : workspace.share? place = none := by
    cases found : workspace.share? place with
    | none => rfl
    | some share => exact absurd (alone share found).1 elsewhere
  rw [disconnect]
  split
  · next isPlace => exact nobody (by simp [isPlace])
  · next own isOwn =>
      by_cases same : own = place
      · subst same
        split
        · split
          · assumption
          · next share found =>
              have isOnly := (alone share found).2.2
              have isCleared := find?_cleared Share.place workspace.shares own
              rw [if_neg (by omega)]
              dsimp only
              split <;> exact isCleared
        · next notCounted =>
            cases found : workspace.share? own with
            | none => rfl
            | some share => exact absurd (alone share found).2.1 notCounted
      · have apart : place ≠ own := Ne.symm same
        have isNobody := nobody (by simp [isOwn, same])
        split
        · split
          · exact isNobody
          · next share found =>
              have isOther : place ≠ share.place := place_of_share? found ▸ apart
              split
              · refine (share?_setShare_other ?_).trans isNobody
                exact isOther
              · have isCleared := (share?_clearShare_other apart).trans isNobody
                dsimp only
                split <;> exact isCleared
        · exact isNobody

end Workspace

end RecordStore
