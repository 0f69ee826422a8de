import RecordStore.Proofs.Database.Columns
import RecordStore.Proofs.Database.Rule
import RecordStore.Proofs.Sql.Statement

/-!
# What adding and overwriting rows come to

Whatever table a statement is run on, adding a row and overwriting some give the
table other rows and change nothing else.  The rows ascend by their ids
afterwards if they have done so before.  The text of a statement with its
parameters comes to the same as the statement for which it was made.

Main statements: `Database.execute_insert`, `Database.execute_update`,
`Database.exists_own_of_insertCells` and `Database.exists_own_of_update`.
-/

namespace RecordStore

open Sql (Condition Statement)

/-! ## Rows of a table -/

namespace Table

variable {table : Table}

/-- Two tables differ in their rows alone. -/
def SameButRows (before after : Table) : Prop :=
  after = { before with rows := after.rows }

theorem SameButRows.refl (table : Table) : SameButRows table table :=
  rfl

theorem SameButRows.trans
    {first second third : Table}
    (left : SameButRows first second)
    (right : SameButRows second third) :
    SameButRows first third := by
  rw [SameButRows] at *
  rw [right, left]

theorem sameButRows_without (table : Table) (ids : List Int64) :
    SameButRows table (table.without ids) :=
  rfl

end Table

namespace Database

variable {database : Database} {name : String} {table : Table}

/-! ## Overwriting one row after the other -/

/-- What becomes of a row that is to be overwritten. -/
inductive Overwrites (table : Table) (cells : List (Nat × Cell)) (row : Row) :
    Bool × Table → Prop where
  | left : Overwrites table cells row (false, table)
  | replaced
      {id : Int64}
      {displaced : List Int64}
      (isId : assignedId table cells row.id = .ok id)
      (accepted :
        table.verdict (some row.id) (table.numbered { row.overwrite cells with id := id }) =
          .accepted displaced) :
      Overwrites table cells row
        (true,
          changeRow (table.without displaced) row.id
            (table.numbered { row.overwrite cells with id := id }))

theorem overwrites_updateRow
    {cells : List (Nat × Cell)}
    {row : Row}
    {result : Bool × Table}
    (updates : updateRow table cells row = .ok result) :
    Overwrites table cells row result := by
  rw [updateRow] at updates
  split at updates
  · cases updates
    exact .left
  · rcases Outcome.bind_eq_ok_iff.mp updates with ⟨id, isId, updates⟩
    dsimp only at updates
    split at updates
    · contradiction
    · cases updates
      exact .left
    · next displaced accepted =>
        cases updates
        exact .replaced isId accepted

theorem length_numbered (table : Table) (row : Row) :
    (table.numbered row).cells.length = row.cells.length := by
  rw [Table.numbered]
  split
  · rfl
  · exact List.length_set

theorem sameButRows_changeRow (table : Table) (id : Int64) (row : Row) :
    Table.SameButRows table (changeRow table id row) := by
  rw [changeRow]
  split <;> rfl

theorem Overwrites.sameButRows
    {cells : List (Nat × Cell)}
    {row : Row}
    {result : Bool × Table}
    (overwrites : Overwrites table cells row result) :
    Table.SameButRows table result.2 := by
  cases overwrites with
  | left => exact .refl table
  | replaced => exact (Table.sameButRows_without table _).trans (sameButRows_changeRow _ _ _)

/-- A row that comes in the place of one leaves the rows in the order of their ids. -/
theorem ascending_changeRow
    (ascending : Table.Ascending table.rows)
    {id : Int64}
    {row : Row}
    (apart : ∀ other ∈ table.rows, other.id = row.id → other.id = id) :
    Table.Ascending (changeRow table id row).rows := by
  rw [changeRow]
  split
  · next same =>
      apply ascending.map
      intro known
      split
      · next isKnown => rw [same, eq_of_beq isKnown]
      · rfl
  · apply (ascending.filter _).insertRow
    intro other member sameId
    rcases List.mem_filter.mp member with ⟨isRow, isOther⟩
    simp [apart other isRow sameId] at isOther

theorem Overwrites.ascending
    {cells : List (Nat × Cell)}
    {row : Row}
    {result : Bool × Table}
    (overwrites : Overwrites table cells row result)
    (ascending : Table.Ascending table.rows) :
    Table.Ascending result.2.rows := by
  cases overwrites with
  | left => exact ascending
  | replaced isId accepted =>
      apply ascending_changeRow (ascending.filter _)
      intro other member sameId
      exact Option.some.inj (Table.apart_of_accepted accepted member sameId)

/-- What overwriting a row keeps is kept by overwriting rows. -/
theorem updateRows_induction
    {motive : Table → Prop}
    {cells : List (Nat × Cell)}
    {rows : List Row}
    (kept :
      ∀ table result, ∀ row ∈ rows, Overwrites table cells row result → motive table →
        motive result.2)
    {changed : Nat}
    {after : Table}
    (updates : updateRows table cells rows = .ok (changed, after))
    (holds : motive table) :
    motive after := by
  induction rows generalizing table changed with
  | nil =>
      cases updates
      exact holds
  | cons row rest induction =>
      rcases Outcome.bind_eq_ok_iff.mp updates with ⟨⟨isDone, next⟩, updatesFirst, updates⟩
      rcases Outcome.bind_eq_ok_iff.mp updates with ⟨⟨others, last⟩, updatesRest, isResult⟩
      cases isResult
      have first := overwrites_updateRow updatesFirst
      refine induction ?_ updatesRest (kept table _ row List.mem_cons_self first holds)
      intro table result other member
      exact kept table result other (List.mem_cons_of_mem row member)

theorem sameButRows_of_updateRows
    {cells : List (Nat × Cell)}
    {rows : List Row}
    {changed : Nat}
    {after : Table}
    (updates : updateRows table cells rows = .ok (changed, after)) :
    Table.SameButRows table after :=
  updateRows_induction (fun _ _ _ _ overwrites same => same.trans overwrites.sameButRows) updates
    (.refl table)

/-! ## Ids that stay -/

theorem assignedId_of_noKey
    (noKey : table.key = none)
    (cells : List (Nat × Cell))
    (id : Int64) :
    assignedId table cells id = .ok id := by
  have noIdentity :
      cells.reverse.find? (fun entry => table.columnSource entry.1 == .identity) = none := by
    apply List.find?_eq_none.mpr
    intro entry _
    rw [Table.columnSource_of_noKey noKey]
    simp
  rw [assignedId, noIdentity]
  rfl

/-- A row that is overwritten under its own id stays where it is. -/
theorem changeRow_overwrite
    (ascending : Table.Ascending table.rows)
    {row : Row}
    (member : row ∈ table.rows)
    (cells : List (Nat × Cell)) :
    changeRow table row.id (row.overwrite cells) =
      { table with
        rows :=
          table.rows.map fun known =>
            if known.id == row.id then known.overwrite cells else known } := by
  have sameId : (row.overwrite cells).id = row.id := rfl
  rw [changeRow, if_pos sameId]
  congr 1
  apply List.map_congr_left
  intro known isKnown
  split
  · next same =>
      rw [List.inj_on_of_nodup_map ascending.ids_nodup isKnown member (eq_of_beq same)]
  · rfl

/-- Where rules never make a row go, a row is overwritten in its place or left alone. -/
theorem Overwrites.eq_or
    {cells : List (Nat × Cell)}
    {row : Row}
    {result : Bool × Table}
    (overwrites : Overwrites table cells row result)
    (keeps : table.KeepsRivals)
    (ascending : Table.Ascending table.rows)
    (member : row ∈ table.rows) :
    result = (false, table) ∨
      result =
        (true,
          { table with
            rows :=
              table.rows.map fun known =>
                if known.id == row.id then known.overwrite cells else known }) := by
  cases overwrites with
  | left => exact .inl rfl
  | replaced isId accepted =>
      right
      rw [assignedId_of_noKey keeps.noKey] at isId
      cases isId
      rw [Table.displaced_eq_nil keeps accepted, Table.without_nil,
        Table.numbered_of_noKey keeps.noKey]
      exact congrArg (Prod.mk true) (changeRow_overwrite ascending member cells)

/-! ## Statements on a table -/

/-- Overwriting changes rows of a table that may be changed. -/
theorem exists_own_of_update
    {assignments : List (String × Value)}
    {condition : Condition Value}
    {effect : Effect}
    (updates : database.update name assignments condition = .ok effect) :
    ∃ table cells after, database.getOwnTable name = .ok table ∧
      resolveAssignments table assignments = .ok cells ∧
        updateRows table cells (table.matching (some condition)) = .ok (effect.changed, after) ∧
          effect.database = database.replaceTable after := by
  rcases Outcome.bind_eq_ok_iff.mp updates with ⟨_, _, updates⟩
  rcases Outcome.bind_eq_ok_iff.mp updates with ⟨table, isOwn, updates⟩
  rcases Outcome.bind_eq_ok_iff.mp updates with ⟨cells, resolves, updates⟩
  split at updates
  · contradiction
  · rcases Outcome.bind_eq_ok_iff.mp updates with ⟨⟨changed, after⟩, runs, isResult⟩
    cases isResult
    exact ⟨table, cells, after, isOwn, resolves, runs, rfl⟩

/--
A new row comes to those of a table that may be changed and that are not in its
way, or it is dropped.
-/
theorem exists_own_of_insertCells
    {given : List (String × Cell)}
    {effect : Effect}
    (inserts : database.insertCells name given = .ok effect) :
    ∃ table resolved id, database.getOwnTable name = .ok table ∧
      resolveRow table name given = .ok resolved ∧ newId table resolved = .ok id ∧
        (effect = ⟨0, none, database⟩ ∨
          ∃ displaced,
            table.verdict none (table.numbered ⟨id, table.newCells resolved⟩) =
                .accepted displaced ∧
              effect =
                ⟨1, some id,
                  database.replaceTable
                    { table with
                      rows :=
                        Table.insertRow (table.numbered ⟨id, table.newCells resolved⟩)
                          (table.without displaced).rows }⟩) := by
  rcases Outcome.bind_eq_ok_iff.mp inserts with ⟨table, isOwn, inserts⟩
  rcases Outcome.bind_eq_ok_iff.mp inserts with ⟨resolved, resolves, inserts⟩
  rcases Outcome.bind_eq_ok_iff.mp inserts with ⟨id, isNew, inserts⟩
  refine ⟨table, resolved, id, isOwn, resolves, isNew, ?_⟩
  dsimp only at inserts
  split at inserts
  · contradiction
  · cases inserts
    exact .inl rfl
  · next displaced accepted =>
      cases inserts
      exact .inr ⟨displaced, accepted, rfl⟩

/-- A new row is left out only where a rule of its table says so, and nothing changes then. -/
theorem mayDrop_of_insertCells
    {given : List (String × Cell)}
    {effect : Effect}
    (inserts : database.insertCells name given = .ok effect)
    (isLeftOut : effect.inserted = none) :
    effect.database = database ∧
      ∃ table, database.getOwnTable name = .ok table ∧ table.MayDrop := by
  rcases Outcome.bind_eq_ok_iff.mp inserts with ⟨table, isOwn, inserts⟩
  rcases Outcome.bind_eq_ok_iff.mp inserts with ⟨resolved, _, inserts⟩
  rcases Outcome.bind_eq_ok_iff.mp inserts with ⟨id, _, inserts⟩
  dsimp only at inserts
  split at inserts
  · contradiction
  · next dropped =>
      cases inserts
      exact ⟨rfl, table, isOwn, Table.mayDrop_of_dropped dropped⟩
  · cases inserts
    contradiction

/-! ## Statements by their texts -/

theorem execute_eq
    {sql : String}
    {parameters : List Value}
    {change : Sql.Change Value}
    (reads : (Sql.Change.read? sql).bind (Sql.Change.bind? · parameters) = some change) :
    database.execute sql parameters =
      (checkParameters sql >>= fun _ => database.change change) := by
  rcases Option.bind_eq_some_iff.mp reads with ⟨read, isRead, isBound⟩
  simp only [execute, isRead, isBound]

/-- An identifier can name a column. -/
theorem isColumn_of_check {column : String} (checked : Identifier.check column = .ok ()) :
    Condition.Lexeme.IsColumn column := by
  have wellFormed : (Field.column column).WellFormed := checked
  exact Field.isColumn_sqlName wellFormed

variable
  {assignments : List (String × Value)}
  (isTable : Identifier.check name = .ok ())
  (areColumns : ∀ entry ∈ assignments, Identifier.check entry.1 = .ok ())

include isTable areColumns

/-- The text of a statement that adds a row gives each column the value that is meant for it. -/
theorem execute_insert :
    database.execute (Statement.insert name assignments).text
        (Statement.insert name assignments).parameters =
      (checkParameters (Statement.insert name assignments).text >>= fun _ =>
        database.insertCells name
          (assignments.map fun entry => (entry.1, Cell.ofValue entry.2))) := by
  rw [execute_eq
    (Sql.Change.bind_insert (isColumn_of_check isTable) fun entry member =>
      isColumn_of_check (areColumns entry member))]
  have paired :
      (assignments.map Prod.fst).zip ((assignments.map Prod.snd).map Cell.ofValue) =
        assignments.map fun entry => (entry.1, Cell.ofValue entry.2) := by
    rw [List.map_map, List.zip_map', List.map_inj_left]
    exact fun _ _ => rfl
  simp only [change, insert, List.length_map, if_pos, paired]

/-- The text of a statement that overwrites a row sets each column to the value meant for it. -/
theorem execute_update
    (hasColumn : assignments ≠ [])
    (id : Int64) :
    database.execute (Statement.update name assignments (.integer id)).text
        (Statement.update name assignments (.integer id)).parameters =
      (checkParameters (Statement.update name assignments (Value.integer id)).text >>= fun _ =>
        database.update name assignments (Condition.ofId id)) := by
  rw [execute_eq
    (Sql.Change.bind_update (isColumn_of_check isTable)
      (fun entry member => isColumn_of_check (areColumns entry member)) hasColumn (.integer id))]
  rfl

end Database

end RecordStore
