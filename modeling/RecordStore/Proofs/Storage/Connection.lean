import RecordStore.Proofs.Database.Identity
import RecordStore.Proofs.Storage.Session
import RecordStore.Storage.Connection

/-!
# Sound databases

Whoever has created a table and put rows into it, its columns have names of
their own, and its rows ascend by their ids and have a cell for each column.
Connecting, saving and disconnecting keep that, since a place holds afterwards
what it held before, what was saved there, or nothing.

Main statements: `Workspace.IsSound.createQuoted` and `Workspace.IsSound.insertCells`.
-/

namespace RecordStore

/-! ## Tables that are sound -/

/-- A table is one that was created, and its rows are in order and have all of their cells. -/
structure Table.IsSound (table : Table) : Prop where
  own : table.isFixed = false
  distinct : table.columns.Pairwise fun earlier later => Text.sameName earlier later = false
  few : table.columns.length ≤ Database.maximalColumns
  ascending : Ascending table.rows
  full : ∀ row ∈ table.rows, row.cells.length = table.columns.length

theorem Table.IsSound.withRows
    {table : Table}
    (sound : table.IsSound)
    {rows : List Row}
    (ascending : Ascending rows)
    (full : ∀ row ∈ rows, row.cells.length = table.columns.length) :
    ({ table with rows := rows } : Table).IsSound :=
  ⟨sound.own, sound.distinct, sound.few, ascending, full⟩

/-- Every table that was created is sound. -/
def Database.IsSound (database : Database) : Prop :=
  ∀ table ∈ database.tables, table.IsSound

namespace Database

theorem isSound_empty : Database.empty.IsSound :=
  fun _ member => absurd member List.not_mem_nil

namespace IsSound

variable {database changed : Database} {name : String}

theorem addTable
    (sound : database.IsSound)
    {columns : List String}
    {definition : String}
    (adds : database.addTable name columns definition = .ok changed) :
    changed.IsSound := by
  rcases Outcome.bind_eq_ok_iff.mp adds with ⟨_, checked, adds⟩
  cases adds
  rcases (checkColumns_eq_ok_iff name (Nat.zero_le _) columns).mp checked with ⟨few, distinct, _⟩
  intro table member
  rcases List.mem_append.mp member with isKnown | isNew
  · exact sound table isKnown
  · rw [List.mem_singleton.mp isNew]
    exact ⟨rfl, distinct, by simpa using few, .nil, fun _ isRow => absurd isRow List.not_mem_nil⟩

theorem createQuoted
    (sound : database.IsSound)
    {columns : List String}
    (creates : database.createQuoted name columns = .ok changed) :
    changed.IsSound := by
  rcases Outcome.bind_eq_ok_iff.mp creates with ⟨_, _, creates⟩
  split at creates
  · contradiction
  · rcases Outcome.bind_eq_ok_iff.mp creates with ⟨_, _, adds⟩
    exact sound.addTable adds

theorem replaceTable
    (sound : database.IsSound)
    {table : Table}
    (isSound : table.IsSound) :
    (database.replaceTable table).IsSound := by
  intro other member
  rcases List.mem_map.mp member with ⟨known, isKnown, isOther⟩
  rw [← isOther]
  split
  · exact isSound
  · exact sound known isKnown

theorem insertCells
    (sound : database.IsSound)
    {given : List (String × Cell)}
    {effect : Effect}
    (inserts : database.insertCells name given = .ok effect) :
    effect.database.IsSound := by
  rcases exists_own_of_insertCells inserts with
    ⟨table, resolved, id, isOwn, _, _, rfl | ⟨displaced, accepted, rfl⟩⟩
  · exact sound
  · have isSound := sound table (List.mem_of_find?_eq_some (table?_of_getOwnTable isOwn))
    have full :
        (table.numbered ⟨id, table.newCells resolved⟩).cells.length = table.columns.length := by
      rw [Database.length_numbered, Table.newCells, List.length_map, List.length_range]
    have isFree (other : Row) (member : other ∈ (table.without displaced).rows) :
        other.id ≠ (table.numbered ⟨id, table.newCells resolved⟩).id :=
      fun sameId => Option.some_ne_none _ (Table.apart_of_accepted accepted member sameId)
    apply sound.replaceTable
    apply isSound.withRows ((isSound.ascending.filter _).insertRow isFree)
    intro other member
    rcases Table.mem_insertRow.mp member with rfl | known
    · exact full
    · exact isSound.full other (List.mem_of_mem_filter known)

end IsSound

/-- The rows of every table ascend by their ids. -/
def IsOrdered (database : Database) : Prop :=
  ∀ table ∈ database.tables, Table.Ascending table.rows

theorem IsSound.isOrdered
    {database : Database}
    (sound : database.IsSound) :
    database.IsOrdered :=
  fun table member => (sound table member).ascending

end Database

/-! ## What holds of the databases in all places -/

namespace Workspace

/-- The databases in all places have a property. -/
def Everywhere (workspace : Workspace) (kept : Database → Prop) : Prop :=
  ∀ place database, workspace.database place = .ok database → kept database

theorem everywhere_empty
    {kept : Database → Prop}
    (ofEmpty : kept .empty) :
    Workspace.empty.Everywhere kept := by
  intro place database holds
  have isEmpty : Workspace.empty.database place = .ok .empty := by
    unfold Workspace.database Workspace.entry?
    by_cases isDirectory : place = [] ∨ place = [Path.root]
    · rw [if_pos isDirectory]
    · rw [if_neg isDirectory]
      rfl
  rw [← Except.ok.inj (isEmpty.symm.trans holds)]
  exact ofEmpty

namespace Everywhere

variable {workspace : Workspace} {kept : Database → Prop}

/-- What holds the same databases, or empty ones in their place, keeps what holds of them. -/
theorem of_database_eq_or
    (everywhere : workspace.Everywhere kept)
    (ofEmpty : kept .empty)
    {after : Workspace}
    (same :
      ∀ place, after.database place = workspace.database place ∨
        after.database place = .ok .empty) :
    after.Everywhere kept := by
  intro place database holds
  rcases same place with isKnown | isEmpty
  · exact everywhere place database (isKnown.symm.trans holds)
  · rw [← Except.ok.inj (isEmpty.symm.trans holds)]
    exact ofEmpty

theorem fill
    (everywhere : workspace.Everywhere kept)
    {after : Workspace}
    (fills : Fills workspace after) :
    after.Everywhere kept := by
  intro place database holds
  exact everywhere place database ((fills.database_eq place).symm.trans holds)

theorem connect
    (everywhere : workspace.Everywhere kept)
    (name : String) :
    (workspace.connect name).2.Everywhere kept := by
  intro place database holds
  exact everywhere place database ((workspace.database_connect name place).symm.trans holds)

theorem disconnect
    (everywhere : workspace.Everywhere kept)
    (ofEmpty : kept .empty)
    (connection : Connection) :
    (workspace.disconnect connection).Everywhere kept :=
  everywhere.of_database_eq_or ofEmpty (workspace.database_disconnect_eq_or connection)

theorem save
    (everywhere : workspace.Everywhere kept)
    (connection : Connection)
    {saved : Database}
    (ofSaved : kept saved) :
    (workspace.save connection saved).Everywhere kept := by
  intro place database holds
  rcases workspace.database_save_eq_or connection saved place with isKnown | isSaved
  · exact everywhere place database (isKnown.symm.trans holds)
  · rw [← Except.ok.inj (isSaved.symm.trans holds)]
    exact ofSaved

/-- What holds everywhere holds of what a connection reads. -/
theorem read
    (everywhere : workspace.Everywhere kept)
    (ofEmpty : kept .empty)
    {connection : Connection}
    {database : Database}
    (reads : workspace.read connection = .ok database) :
    kept database := by
  rw [Workspace.read] at reads
  split at reads
  · cases reads
    exact ofEmpty
  · next place _ =>
      split at reads
      · contradiction
      · exact everywhere place database reads

/-- What holds everywhere holds of what a new connection reads. -/
theorem of_connect
    (everywhere : workspace.Everywhere kept)
    (ofEmpty : kept .empty)
    {location : Location}
    {connection : Connection}
    {made : Workspace}
    (connects : Storage.connect workspace location = (.ok connection, made))
    {database : Database}
    (reads : made.read connection = .ok database) :
    kept database := by
  rcases Storage.of_connect connects with ⟨reached, fills, opens⟩
  have opened := (everywhere.fill fills).connect location.database
  rw [opens] at opened
  exact opened.read ofEmpty reads

/-- What operations keep of a database is kept everywhere. -/
theorem onDatabase
    (everywhere : workspace.Everywhere kept)
    (ofEmpty : kept .empty)
    (name : String)
    (check : Except DatabaseFault Unit)
    {operation : Database → Except DatabaseFault Database}
    (keeps : ∀ database changed, kept database → operation database = .ok changed → kept changed) :
    (workspace.onDatabase name check operation).2.Everywhere kept := by
  -- Connecting comes first and may create a file, so the property is shown for what it leaves.
  have opened := everywhere.connect name
  rw [Workspace.onDatabase]
  split
  · next fails =>
      rw [fails] at opened
      exact opened
  · next connection made connects =>
      rw [connects] at opened
      split
      · exact opened.disconnect ofEmpty connection
      · next changes =>
          rcases Outcome.bind_eq_ok_iff.mp changes with ⟨_, _, changes⟩
          rcases Outcome.bind_eq_ok_iff.mp changes with ⟨database, reads, changes⟩
          have changed :=
            keeps _ _ (opened.read ofEmpty reads) (DatabaseFault.hinder_eq_ok_iff.mp changes).2
          exact (opened.save connection changed).disconnect ofEmpty connection

end Everywhere

/-- In all databases the rows are in order. -/
def IsOrdered (workspace : Workspace) : Prop :=
  ∀ place database, workspace.database place = .ok database → database.IsOrdered

/-- In all databases the tables are sound. -/
def IsSound (workspace : Workspace) : Prop :=
  workspace.Everywhere Database.IsSound

theorem isSound_empty : Workspace.empty.IsSound :=
  everywhere_empty Database.isSound_empty

namespace IsSound

variable {workspace : Workspace}

theorem isOrdered (sound : workspace.IsSound) : workspace.IsOrdered :=
  fun place database holds => (sound place database holds).isOrdered

/-- Tables that others create are sound. -/
theorem createQuoted
    (sound : workspace.IsSound)
    (name table : String)
    (columns : List String) :
    (workspace.createQuoted name table columns).2.IsSound :=
  Everywhere.onDatabase sound Database.isSound_empty name _
    fun _ _ known creates => known.createQuoted creates

/-- The rows that others add come where their ids belong, and have all of their cells. -/
theorem insertCells
    (sound : workspace.IsSound)
    (name table : String)
    (given : List (String × Cell)) :
    (workspace.insertCells name table given).2.IsSound := by
  apply Everywhere.onDatabase sound Database.isSound_empty name
  intro database changed known inserts
  rcases Outcome.map_eq_ok_iff.mp inserts with ⟨effect, runs, rfl⟩
  exact known.insertCells runs

end IsSound

end Workspace

end RecordStore
