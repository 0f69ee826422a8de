import RecordStore.Proofs.Storage.Reconnect
import RecordStore.Workspace.Way

/-!
# Ways that stay open

A walk depends on the kinds of what stands where it comes by, and so does the
way of a database to its file.  As long as these stay what they are, a location
leads where it has led before.  That a database is saved in the file changes no
kinds, and that the file is made closes the way only to itself.

Main statements: `Storage.connect_of_leads` and `Storage.leads_of_connect`.
-/

namespace RecordStore

namespace Workspace

variable {before after : Workspace}

/-! ## Kinds -/

@[simp]
theorem kind?_eq_file_iff {place : Path.Place} :
    before.kind? place = some .file ↔ ∃ content, before.entry? place = some (.file content) := by
  rw [kind?]
  rcases before.entry? place with _ | ⟨_ | content⟩ <;> simp [Entry.kind]

theorem isDirectory_eq_true_iff {place : Path.Place} :
    before.isDirectory place = true ↔ before.kind? place = some .directory := by
  rw [isDirectory, kind?, beq_iff_eq]
  rcases before.entry? place with _ | ⟨_ | content⟩ <;> simp [Entry.kind]

/-- Nothing has changed in the tree of directories and files. -/
structure SameTree (before after : Workspace) : Prop where
  entries_eq : after.entries = before.entries
  pathLength_eq : after.pathLength = before.pathLength

/-- Directories, files and gaps are where they were. -/
structure SameKinds (before after : Workspace) : Prop where
  pathLength_eq : after.pathLength = before.pathLength
  kind?_eq : ∀ place, after.kind? place = before.kind? place

theorem SameTree.sameKinds (same : before.SameTree after) : before.SameKinds after := by
  refine ⟨same.pathLength_eq, fun place => ?_⟩
  rw [kind?, kind?, entry?_congr same.entries_eq]

theorem SameTree.trans
    {last : Workspace}
    (first : before.SameTree after)
    (second : after.SameTree last) :
    before.SameTree last :=
  ⟨second.entries_eq.trans first.entries_eq, second.pathLength_eq.trans first.pathLength_eq⟩

theorem SameKinds.trans
    {last : Workspace}
    (first : before.SameKinds after)
    (second : after.SameKinds last) :
    before.SameKinds last :=
  ⟨second.pathLength_eq.trans first.pathLength_eq,
    fun place => (second.kind?_eq place).trans (first.kind?_eq place)⟩

/-- A file in the place of another one changes no kind. -/
theorem sameKinds_setEntry
    {place : Path.Place}
    (isFile : before.kind? place = some .file)
    (content : Content) :
    before.SameKinds (before.setEntry place (.file content)) := by
  refine ⟨rfl, fun other => ?_⟩
  by_cases same : other = place
  · have isFilePlace : Path.IsFilePlace place := by
      apply isFilePlace_of_ne_directory before
      intro isDirectory
      rw [kind?, isDirectory] at isFile
      cases isFile
    rw [same, isFile, kind?, entry?_setEntry_self isFilePlace]
    rfl
  · rw [kind?, kind?, entry?_setEntry_other same]

theorem sameKinds_save
    {connection : Connection}
    {place : Path.Place}
    (isPlace : connection.place = some place)
    (isFile : before.kind? place = some .file)
    (database : Database) :
    before.SameKinds (before.save connection database) := by
  rcases before.save_eq_or isPlace database with same | ⟨_, _, written⟩
  · rw [same]
    exact ⟨rfl, fun _ => rfl⟩
  · rw [written]
    exact sameKinds_setEntry isFile _

/-! ## Walks -/

theorem walk_cons
    (workspace : Workspace)
    (place : Path.Place)
    (part : String)
    (rest : List String) :
    workspace.walk place (part :: rest) =
      match workspace.kind? place with
      | none => .error .notFound
      | some .file => .error .notADirectory
      | some .directory =>
          if Path.maximalName < part.utf8ByteSize then
            .error .nameTooLong
          else if part = Path.here then
            workspace.walk place rest
          else if part = Path.above then
            workspace.walk (Path.parent place) rest
          else
            workspace.walk (place ++ [part]) rest := by
  rw [walk, kind?]
  rcases workspace.entry? place with _ | ⟨_ | content⟩ <;> rfl

/-- Walks along the same parts end alike where the kinds of what they come by are the same. -/
theorem walk_congr
    {place : Path.Place}
    {parts : List String}
    (same : ∀ other ∈ Path.visited place parts, after.kind? other = before.kind? other) :
    after.walk place parts = before.walk place parts := by
  induction parts generalizing place with
  | nil => rfl
  | cons part rest induction =>
      rw [Path.visited, List.forall_mem_cons] at same
      rcases same with ⟨samePlace, sameRest⟩
      rw [walk_cons, walk_cons, samePlace]
      split
      · rfl
      · rfl
      · split
        · rfl
        · split_ifs at sameRest ⊢ with isHere isAbove
          · exact induction sameRest
          · exact induction sameRest
          · exact induction sameRest

/-- A walk ends at one of the places that it comes by. -/
theorem mem_visited_of_walk
    {place found : Path.Place}
    {parts : List String}
    (walks : before.walk place parts = .ok found) :
    found ∈ Path.visited place parts := by
  induction parts generalizing place with
  | nil =>
      cases walks
      exact List.mem_cons_self
  | cons part rest induction =>
      rw [walk_cons] at walks
      split at walks
      · contradiction
      · contradiction
      · split at walks
        · contradiction
        · rw [Path.visited]
          apply List.mem_cons_of_mem
          split_ifs at walks ⊢ with isHere isAbove
          · exact induction walks
          · exact induction walks
          · exact induction walks

theorem reachesDirectory_congr
    {path : String}
    (same :
      ∀ other ∈ Path.visited (Path.start path) (Path.steps path),
        after.kind? other = before.kind? other) :
    after.reachesDirectory path = before.reachesDirectory path := by
  have sameResolve : after.resolve path = before.resolve path := by
    rw [resolve, resolve, walk_congr same]
  rw [reachesDirectory, reachesDirectory, sameResolve]
  cases resolves : before.resolve path with
  | error fault => rfl
  | ok place =>
      have walks : before.walk (Path.start path) (Path.steps path) = .ok place := by
        rw [resolve] at resolves
        split_ifs at resolves
        exact resolves
      have sameKind := same place (mem_visited_of_walk walks)
      dsimp only
      rw [Bool.eq_iff_iff, isDirectory_eq_true_iff, isDirectory_eq_true_iff, sameKind]

/-- A directory that is reached stays so when something is put where nothing was. -/
theorem reachesDirectory_setEntry
    {place : Path.Place}
    (isNone : Workspace.entry? before place = none)
    (entry : Entry)
    {path : String}
    (reaches : before.reachesDirectory path = true) :
    (before.setEntry place entry).reachesDirectory path = true := by
  rw [reachesDirectory] at reaches ⊢
  split at reaches
  · next found resolves =>
      rw [resolve_setEntry isNone entry resolves]
      have apart : found ≠ place := by
        rintro rfl
        rw [isDirectory, isNone] at reaches
        contradiction
      dsimp only
      rw [isDirectory, entry?_setEntry_other apart]
      exact reaches
  · contradiction

/-! ## Paths of databases -/

theorem isWithinReach_cons
    (workspace : Workspace)
    (place : Path.Place)
    {part : String}
    (isName : ¬ (part.isEmpty || part = Path.here) = true)
    (notAbove : part ≠ Path.above)
    (rest : List String) :
    workspace.isWithinReach place (part :: rest) =
      ((match workspace.kind? place with
        | none => true
        | some .file => false
        | some .directory => part.utf8ByteSize ≤ Path.maximalName) &&
        Path.length workspace.pathLength (place ++ [part]) < Path.maximalDatabasePath &&
        workspace.isWithinReach (place ++ [part]) rest) := by
  rw [isWithinReach, if_neg isName, if_neg notAbove, kind?]
  rcases workspace.entry? place with _ | ⟨_ | content⟩ <;> rfl

/-- A file is within reach alike where the kinds of what its path enters are the same. -/
theorem isWithinReach_congr
    (sameLength : after.pathLength = before.pathLength)
    {place : Path.Place}
    {parts : List String}
    (same : ∀ other ∈ Path.entered place parts, after.kind? other = before.kind? other) :
    after.isWithinReach place parts = before.isWithinReach place parts := by
  induction parts generalizing place with
  | nil => rw [isWithinReach, isWithinReach, sameLength]
  | cons part rest induction =>
      rw [Path.entered] at same
      by_cases isHere : (part.isEmpty || part = Path.here) = true
      · rw [if_pos isHere] at same
        rw [isWithinReach, isWithinReach, if_pos isHere, if_pos isHere, induction same]
      · rw [if_neg isHere] at same
        by_cases isAbove : part = Path.above
        · rw [if_pos isAbove] at same
          rw [isWithinReach, isWithinReach, if_neg isHere, if_neg isHere, if_pos isAbove,
            if_pos isAbove, induction same]
        · rw [if_neg isAbove, List.forall_mem_cons] at same
          rw [isWithinReach_cons after place isHere isAbove,
            isWithinReach_cons before place isHere isAbove, same.1, sameLength, induction same.2]

/-! ## Leading to a file -/

/-- The way to the database of a location is open. -/
structure Leads (workspace : Workspace) (location : Location) : Prop where
  directories :
    location.isMemory = true ∨
      ∀ path ∈ (Path.directoriesAbove location.database).head?,
        workspace.reachesDirectory path = true
  file :
    ∀ name, (Address.read location.database).map Address.home = .ok (.file name) →
      workspace.isWithinReach (Path.start name) (Path.pieces name) = true

variable {location : Location} {place : Path.Place} {connection : Connection}

theorem Leads.of_kinds
    (leads : before.Leads location)
    (sameLength : after.pathLength = before.pathLength)
    (same :
      ∀ other ∈ location.visited ++ location.entered, after.kind? other = before.kind? other) :
    after.Leads location := by
  rw [List.forall_mem_append] at same
  constructor
  · refine leads.directories.imp_right fun reaches path isFirst => ?_
    rw [reachesDirectory_congr]
    · exact reaches path isFirst
    · rcases List.head?_eq_some_iff.mp isFirst with ⟨others, areDirectories⟩
      have areVisited := same.1
      rwa [Location.visited, areDirectories] at areVisited
  · intro name isFile
    rw [isWithinReach_congr sameLength]
    · exact leads.file name isFile
    · have areEntered := same.2
      rwa [Location.entered, isFile] at areEntered

/-- What leaves the way to a file alone leaves it open. -/
theorem Leads.of_leavesWay
    (leads : before.Leads location)
    (leavesWay : before.LeavesWay after location place) :
    after.Leads location :=
  leads.of_kinds leavesWay.pathLength_eq leavesWay.kind?_eq

theorem LeavesWay.noJournal
    (leavesWay : before.LeavesWay after location place)
    (noJournal : before.isDirectory (Path.journal place) = false) :
    after.isDirectory (Path.journal place) = false := by
  cases isDirectory : after.isDirectory (Path.journal place) with
  | false => rfl
  | true => rw [← noJournal, leavesWay.journal isDirectory]

/-- What changes no kinds leaves every way alone. -/
theorem SameKinds.leavesWay (same : before.SameKinds after) :
    before.LeavesWay after location place := by
  refine ⟨same.pathLength_eq, fun other _ => same.kind?_eq other, ?_⟩
  rw [isDirectory_eq_true_iff, isDirectory_eq_true_iff, same.kind?_eq]
  exact id

/-! ## Connecting -/

theorem sameTree_join (workspace : Workspace) (connection : Connection) :
    workspace.SameTree (workspace.join connection).2 := by
  rw [join]
  split
  · exact ⟨rfl, rfl⟩
  · split
    · split <;> exact ⟨rfl, rfl⟩
    · exact ⟨rfl, rfl⟩

/-- A connection to a file leaves every entry behind as it is. -/
theorem sameTree_disconnect
    (isPlace : connection.place = some place)
    (onDisk : Path.isInMemory place = false) :
    before.SameTree (before.disconnect connection) := by
  simp only [disconnect, isPlace, onDisk]
  split
  · split
    · exact ⟨rfl, rfl⟩
    · split <;> exact ⟨rfl, rfl⟩
  · exact ⟨rfl, rfl⟩

theorem sameTree_setChanging
    (before : Workspace)
    (connection : Connection)
    (table : Option String) :
    before.SameTree (before.setChanging connection table) := by
  rw [setChanging]
  split
  · exact ⟨rfl, rfl⟩
  · split
    · exact ⟨rfl, rfl⟩
    · split <;> exact ⟨rfl, rfl⟩

theorem sameTree_exchange (before : Workspace) (connection : Connection) (own next : Option Lock) :
    before.SameTree (before.exchange connection own next) := by
  rw [exchange_eq_holds]
  exact ⟨rfl, rfl⟩

/-- A file that is within reach is opened as it is. -/
theorem openHome_of_file
    {name : String}
    {address : Address}
    (isHome : address.home = .file name)
    (withinReach : before.isWithinReach (Path.start name) (Path.pieces name) = true)
    (isFile : before.kind? (Path.shortened name) = some .file)
    (title : String) :
    before.openHome title address = .ok before := by
  rcases kind?_eq_file_iff.mp isFile with ⟨content, stands⟩
  simp [openHome, isHome, openFile, withinReach, stands]

/-- A database that was opened in a file was within reach, and its file is there or is made. -/
theorem of_openHome_file
    {name title : String}
    {address : Address}
    (isHome : address.home = .file name)
    {opened : Workspace}
    (opens : before.openHome title address = .ok opened) :
    before.isWithinReach (Path.start name) (Path.pieces name) = true ∧
      (before.kind? (Path.shortened name) = some .file ∧ opened = before ∨
        before.entry? (Path.shortened name) = none ∧
          opened = before.setEntry (Path.shortened name) (.file (.text ""))) := by
  simp only [openHome, isHome, openFile] at opens
  split at opens
  · contradiction
  · next withinReach =>
      refine ⟨by simpa using withinReach, ?_⟩
      split at opens
      · contradiction
      · next content stands =>
          exact .inl ⟨kind?_eq_file_iff.mpr ⟨content, stands⟩, (Except.ok.inj opens).symm⟩
      · next isNone =>
          split at opens
          · exact .inr ⟨isNone, (Except.ok.inj opens).symm⟩
          · contradiction

end Workspace

/-- What is kept at a place, and not in memory, is kept in a file. -/
theorem Home.exists_file
    {home : Home}
    {place : Path.Place}
    (isPlace : home.place? = some place)
    (onDisk : Path.isInMemory place = false) :
    ∃ name, home = .file name ∧ Path.shortened name = place := by
  cases home with
  | connection => cases isPlace
  | shared name | memoryFile name =>
      cases isPlace
      exact absurd onDisk (by simp [Path.isInMemory, Path.inMemory])
  | file name =>
      cases isPlace
      exact ⟨name, rfl, rfl⟩

/-- The database of a location is kept in a file, which stands at a place. -/
structure Location.StandsAt (location : Location) (place : Path.Place) : Prop where
  noNul : Path.nulIndex? location.database = none
  isFile :
    ∃ address name, Address.read location.database = .ok address ∧
      address.home = .file name ∧ Path.shortened name = place

namespace Storage

variable {workspace opened : Workspace} {location : Location} {place : Path.Place}

/-- Where the way is open, the database in a file is connected to, and no entry changes. -/
theorem connect_of_leads
    (standsAt : location.StandsAt place)
    (leads : workspace.Leads location)
    (isFile : workspace.kind? place = some .file) :
    ∃ connection opened, connect workspace location = (.ok connection, opened) ∧
      connection.place = some place ∧ workspace.SameTree opened := by
  rcases standsAt with ⟨noNul, address, name, isAddress, isHome, rfl⟩
  have withinReach := leads.file name (by rw [isAddress, ← isHome]; rfl)
  have opens := Workspace.openHome_of_file isHome withinReach isFile location.database
  have connects :
      workspace.connect location.database =
        (.ok (workspace.join (.ofAddress address)).1,
          (workspace.join (.ofAddress address)).2) := by
    rw [Workspace.connect, noNul]
    dsimp only
    rw [isAddress]
    dsimp only
    rw [opens]
  have makes :
      (if location.isMemory then (.ok (), workspace)
        else workspace.makeParents location.database) = (.ok (), workspace) := by
    split
    · rfl
    · next notMemory =>
        rcases leads.directories with isMemory | reaches
        · exact absurd isMemory notMemory
        · exact Workspace.makeDirectories_of_reached reaches
  refine
    ⟨(workspace.join (.ofAddress address)).1, (workspace.join (.ofAddress address)).2, ?_, ?_,
      workspace.sameTree_join _⟩
  · rw [connect, makes]
    dsimp only
    rw [connects]
    rfl
  · rw [(workspace.join_eq _).1]
    show address.home.place? = _
    rw [isHome]
    rfl

/-- Opening the file leaves the way open, unless it enters the file that is made. -/
theorem leads_of_openHome
    {name title : String}
    {address : Address}
    (isRead : (Address.read location.database).map Address.home = .ok (.file name))
    (isHome : address.home = .file name)
    (opens : workspace.openHome title address = .ok opened)
    (directories :
      location.isMemory = true ∨
        ∀ path ∈ (Path.directoriesAbove location.database).head?,
          workspace.reachesDirectory path = true)
    (notEntered : Path.shortened name ∉ location.entered) :
    opened.Leads location ∧ opened.kind? (Path.shortened name) = some .file := by
  have isOnly {other : String}
      (isFile : (Address.read location.database).map Address.home = .ok (.file other)) :
      other = name := by
    cases isRead.symm.trans isFile
    rfl
  rcases Workspace.of_openHome_file isHome opens with
    ⟨withinReach, ⟨isFile, rfl⟩ | ⟨isNone, rfl⟩⟩
  · refine ⟨⟨directories, fun other isFile => ?_⟩, isFile⟩
    rw [isOnly isFile]
    exact withinReach
  · -- The file has just been made, and the path goes on to no name below it.
    have isFilePlace : Path.IsFilePlace (Path.shortened name) := by
      apply Workspace.isFilePlace_of_ne_directory workspace
      rw [isNone]
      simp
    constructor
    · constructor
      · refine directories.imp_right fun reaches path isFirst => ?_
        exact Workspace.reachesDirectory_setEntry isNone _ (reaches path isFirst)
      · intro other isFile
        let made := workspace.setEntry (Path.shortened name) (.file (.text ""))
        have sameLength : made.pathLength = workspace.pathLength := rfl
        have sameKinds :
            ∀ place ∈ Path.entered (Path.start name) (Path.pieces name),
              made.kind? place = workspace.kind? place := by
          intro place isEntered
          have apart : place ≠ Path.shortened name := by
            rintro rfl
            rw [Location.entered, isRead] at notEntered
            exact notEntered isEntered
          rw [Workspace.kind?, Workspace.kind?, Workspace.entry?_setEntry_other apart]
        rw [isOnly isFile, Workspace.isWithinReach_congr sameLength sameKinds]
        exact withinReach
    · exact Workspace.kind?_eq_file_iff.mpr
        ⟨.text "", Workspace.entry?_setEntry_self isFilePlace _⟩

/-- Whoever has connected to a file has found the way to it open, and leaves it open. -/
theorem leads_of_connect
    {connection : Connection}
    (connects : connect workspace location = (.ok connection, opened))
    (isPlace : connection.place = some place)
    (onDisk : Path.isInMemory place = false)
    (notEntered : place ∉ location.entered) :
    location.StandsAt place ∧ opened.Leads location ∧ opened.kind? place = some .file := by
  rcases connect_of_reached connects with ⟨reached, _, opens, _, directories⟩
  rcases Workspace.of_connect opens with ⟨address, made, noNul, isAddress, isMade, rfl, rfl⟩
  rw [(Workspace.join_eq _ _).1] at isPlace
  rcases Home.exists_file isPlace onDisk with ⟨name, isHome, rfl⟩
  have isRead : (Address.read location.database).map Address.home = .ok (.file name) := by
    rw [isAddress, ← isHome]
    rfl
  have standsAt : location.StandsAt (Path.shortened name) :=
    ⟨noNul, address, name, isAddress, isHome, rfl⟩
  have same := (made.sameTree_join (.ofAddress address)).sameKinds
  rcases leads_of_openHome isRead isHome isMade directories notEntered with ⟨leads, isFile⟩
  refine ⟨standsAt, ?_, ?_⟩
  · exact leads.of_kinds same.pathLength_eq fun other _ => same.kind?_eq other
  · rw [same.kind?_eq, isFile]

end Storage

end RecordStore
