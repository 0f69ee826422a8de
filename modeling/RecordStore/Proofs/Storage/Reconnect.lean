import Mathlib.Tactic.SplitIfs
import RecordStore.Proofs.Storage.Session

/-!
# Connecting again

Directories that were made are found when they are asked for again, and a
connection to a file that stood there leaves nothing behind.  Whoever
connects to such a file, leaves and connects again meets the same connection in
the same workspace.

Main statement: `Storage.connect_again`.
-/

namespace RecordStore

namespace Workspace

variable {workspace made : Workspace} {place : Path.Place}

/-! ## Directories that were made -/

/-- What is put where nothing was is not on any way that led somewhere before. -/
theorem walk_setEntry
    (isNone : Workspace.entry? workspace place = none)
    (entry : Entry)
    {first found : Path.Place}
    {parts : List String}
    (walks : workspace.walk first parts = .ok found) :
    (workspace.setEntry place entry).walk first parts = .ok found := by
  induction parts generalizing first with
  | nil => exact walks
  | cons part rest induction =>
      rw [walk] at walks ⊢
      by_cases same : first = place
      · rw [same, isNone] at walks
        contradiction
      · rw [entry?_setEntry_other same]
        split at walks
        · contradiction
        · contradiction
        · split_ifs at walks ⊢ with _ isHere isAbove
          · exact induction walks
          · exact induction walks
          · exact induction walks

theorem resolve_setEntry
    (isNone : Workspace.entry? workspace place = none)
    (entry : Entry)
    {path : String}
    {found : Path.Place}
    (resolves : workspace.resolve path = .ok found) :
    (workspace.setEntry place entry).resolve path = .ok found := by
  rw [resolve] at resolves ⊢
  split at resolves
  · contradiction
  · next noNul =>
      rw [if_neg noNul]
      split at resolves
      · contradiction
      · next nonempty =>
          rw [if_neg nonempty]
          split at resolves
          · contradiction
          · next isShort =>
              rw [if_neg isShort]
              exact walk_setEntry isNone entry resolves

theorem reachesDirectory_of_makeDirectory
    {path : String}
    (makes : workspace.makeDirectory path = .ok made) :
    made.reachesDirectory path = true := by
  rcases Outcome.bind_eq_ok_iff.mp makes with ⟨place, resolves, makes⟩
  split at makes
  · contradiction
  · next isNone =>
      cases makes
      have isFilePlace : Path.IsFilePlace place := by
        apply isFilePlace_of_ne_directory workspace
        rw [isNone]
        simp
      rw [reachesDirectory, resolve_setEntry isNone _ resolves]
      dsimp only
      rw [isDirectory, entry?_setEntry_self isFilePlace]
      rfl

/-- A directory that is there is not made again, nor are those above it. -/
theorem makeDirectories_of_reachesDirectory
    {path : String}
    (reaches : workspace.reachesDirectory path = true)
    (others : List String) :
    workspace.makeDirectories (path :: others) = (.ok (), workspace) := by
  have fails : workspace.makeDirectory path = .error .alreadyExists := by
    have isThere := reaches
    rw [reachesDirectory] at isThere
    split at isThere
    · next place resolves =>
        rw [isDirectory] at isThere
        rw [makeDirectory, resolves, Outcome.ok_bind, eq_of_beq isThere]
    · contradiction
  rw [makeDirectories, fails]
  dsimp only
  rw [if_pos reaches]

/-- The first of some directories is reached after they were made. -/
theorem reachesDirectory_of_makeDirectories
    {path : String}
    {others : List String}
    (makes : workspace.makeDirectories (path :: others) = (.ok (), made)) :
    made.reachesDirectory path = true := by
  rw [makeDirectories] at makes
  split at makes
  · next makesFirst =>
      cases makes
      exact reachesDirectory_of_makeDirectory makesFirst
  · split at makes
    · cases makes
    · split at makes
      · next makesFirst =>
          cases makes
          exact reachesDirectory_of_makeDirectory makesFirst
      · split at makes
        · next reaches =>
            cases makes
            exact reaches
        · cases makes
  · split at makes
    · next reaches =>
        cases makes
        exact reaches
    · cases makes

/-- Where the first of some directories is reached, nothing is made. -/
theorem makeDirectories_of_reached
    {paths : List String}
    (reaches : ∀ path ∈ paths.head?, workspace.reachesDirectory path = true) :
    workspace.makeDirectories paths = (.ok (), workspace) := by
  cases paths with
  | nil => rfl
  | cons path others => exact makeDirectories_of_reachesDirectory (reaches path rfl) others

theorem reached_of_makeDirectories
    {paths : List String}
    (makes : workspace.makeDirectories paths = (.ok (), made)) :
    ∀ path ∈ paths.head?, made.reachesDirectory path = true := by
  cases paths with
  | nil => exact fun _ isFirst => by cases isFirst
  | cons path others =>
      intro first isFirst
      cases isFirst
      exact reachesDirectory_of_makeDirectories makes

/-! ## Connections that leave -/

/-- A file that is there is opened as it is. -/
theorem eq_of_openHome
    {name : String}
    {address : Address}
    {opened : Workspace}
    (opens : workspace.openHome name address = .ok opened)
    (isPlace : address.home.place? = some place)
    {content : Content}
    (stands : workspace.entry? place = some (.file content)) :
    opened = workspace := by
  cases home : address.home with
  | connection =>
      rw [home] at isPlace
      contradiction
  | shared | memoryFile =>
      rw [home] at isPlace
      simp only [openHome, home, isPlace, openMemory, stands] at opens
      exact (Except.ok.inj opens).symm
  | file file =>
      rw [home] at isPlace
      cases isPlace
      simp only [openHome, home, openFile, stands] at opens
      split at opens
      · contradiction
      · exact (Except.ok.inj opens).symm

/-- Where nobody was connected, a connection that leaves a file takes back that it has joined. -/
theorem disconnect_join
    (nobody : workspace.share? place = none)
    (onDisk : Path.isInMemory place = false)
    {connection : Connection}
    (isPlace : connection.place = some place) :
    (workspace.join connection).2.disconnect (workspace.join connection).1 = workspace := by
  by_cases isCounted : counts connection place = true
  · have allOthers : ∀ known ∈ workspace.shares, known.place != place := by
      intro known member
      simpa using List.find?_eq_none.mp nobody known member
    let share : Share := { connection.toMode with place := place, users := 1, changing := none }
    have joins : workspace.join connection = (connection, workspace.setShare share) := by
      simp only [join, isPlace, isCounted, nobody, if_true]
      rfl
    have found : (workspace.setShare share).share? place = some share := share?_setShare_self share
    have isCleared : (workspace.setShare share).clearShare place = workspace := by
      have others := List.filter_eq_self.mpr allOthers
      rw [clearShare, setShare]
      dsimp only
      rw [List.filter_append, others, others]
      simp [share]
    rw [joins]
    simp only [disconnect, isPlace, isCounted, found, onDisk, if_true]
    exact isCleared
  · simp only [join, disconnect, isPlace, if_neg isCounted]

/-- Where nobody was connected, a connection to a file leaves the workspace as it was. -/
theorem disconnect_of_connect
    {name : String}
    {connection : Connection}
    {opened : Workspace}
    (connects : workspace.connect name = (.ok connection, opened))
    (isPlace : connection.place = some place)
    (onDisk : Path.isInMemory place = false)
    (nobody : workspace.share? place = none)
    {content : Content}
    (stands : workspace.entry? place = some (.file content)) :
    opened.disconnect connection = workspace := by
  rcases of_connect connects with ⟨address, reached, _, _, opens, rfl, rfl⟩
  rw [(join_eq _ _).1] at isPlace
  cases eq_of_openHome opens isPlace stands
  exact disconnect_join nobody onDisk isPlace

/-- A database with tables stands in a file. -/
theorem exists_file_of_database
    {known : Database}
    (holds : workspace.database place = .ok known)
    (nonempty : known ≠ .empty) :
    ∃ content, workspace.entry? place = some (.file content) := by
  rw [database] at holds
  split at holds
  · next content stands => exact ⟨content, stands⟩
  · cases holds
    contradiction

end Workspace

namespace Storage

/-- Directories that were made on the way to a database are there when it is opened again. -/
theorem connect_of_reached
    {workspace opened : Workspace}
    {location : Location}
    {connection : Connection}
    (connects : connect workspace location = (.ok connection, opened)) :
    ∃ reached, workspace.Fills reached ∧
      reached.connect location.database = (.ok connection, opened) ∧
        connect reached location = (.ok connection, opened) ∧
          (location.isMemory = true ∨
            ∀ path ∈ (Path.directoriesAbove location.database).head?,
              reached.reachesDirectory path = true) := by
  have fills := workspace.fills_makeDirectories (Path.directoriesAbove location.database)
  have opensAt {reached : Workspace}
      (opens :
        ((reached.connect location.database).1.mapError Error.database,
            (reached.connect location.database).2) =
          (.ok connection, opened)) :
      reached.connect location.database = (.ok connection, opened) := by
    rcases Prod.mk.inj opens with ⟨succeeds, isOpened⟩
    exact Prod.ext (Outcome.mapError_eq_ok_iff.mp succeeds) isOpened
  cases inMemory : location.isMemory with
  | true =>
      have opens := connects
      simp only [connect, inMemory, if_true] at opens
      exact ⟨workspace, .refl workspace, opensAt opens, connects, .inl rfl⟩
  | false =>
      simp only [connect, inMemory, Bool.false_eq_true, if_false] at connects ⊢
      rcases makes : workspace.makeParents location.database with ⟨fault | ⟨⟩, reached⟩
      · rw [makes] at connects
        cases connects
      · rw [makes] at connects
        rw [Workspace.makeParents] at makes
        rw [makes] at fills
        have areReached := Workspace.reached_of_makeDirectories makes
        refine ⟨reached, fills, opensAt connects, ?_, .inr areReached⟩
        rw [Workspace.makeParents, Workspace.makeDirectories_of_reached areReached]
        exact connects

/--
Whoever is alone with the database of a file, leaves and connects again finds
the same connection in the same workspace.
-/
theorem connect_again
    {workspace opened : Workspace}
    {location : Location}
    {connection : Connection}
    (connects : connect workspace location = (.ok connection, opened))
    {place : Path.Place}
    (isPlace : connection.place = some place)
    (onDisk : Path.isInMemory place = false)
    (nobody : workspace.share? place = none)
    {known : Database}
    (holds : workspace.database place = .ok known)
    (nonempty : known ≠ .empty) :
    connect (opened.disconnect connection) location = (.ok connection, opened) := by
  rcases connect_of_reached connects with ⟨reached, fills, opens, again, _⟩
  rw [← fills.database_eq] at holds
  rw [← Workspace.share?_congr fills.shares_eq] at nobody
  rcases Workspace.exists_file_of_database holds nonempty with ⟨content, stands⟩
  rw [Workspace.disconnect_of_connect opens isPlace onDisk nobody stands]
  exact again

end Storage

end RecordStore
