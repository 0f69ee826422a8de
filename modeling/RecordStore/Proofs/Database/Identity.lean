import RecordStore.Proofs.Database.Change

/-!
# Rows that are told apart by their ids

A table may have been created by anybody, with columns of any names and with
rules.  As long as no column has the name of the row id or is another name of
it, and no rule makes rows go, an id addresses at most one row: changing and
removing by an id leaves all other rows as they are, and writing of any kind
keeps the rows apart.  The tables of the database itself are never changed, and
none of them that has rows hides their ids.

Main statements: `Database.IdentifiesRows.of_update`, `Database.IdentifiesRows.of_delete` and
`Database.IdentifiesRows.of_insertCells`.
-/

namespace RecordStore

open Sql (Condition)

/-- No column has the name of the row id or is another name of it, and no rule makes rows go. -/
structure Table.ShowsIds (table : Table) : Prop extends table.KeepsRivals where
  shown : table.columnIndex? Field.rowIdName = none

/-- The rows are told apart by their ids, which the table shows. -/
structure Table.IdentifiesRows (table : Table) : Prop extends table.ShowsIds where
  ascending : Table.Ascending table.rows

namespace Table

theorem source?_of_shown
    {table : Table}
    (shown : table.columnIndex? Field.rowIdName = none) :
    table.source? Field.rowIdName = some .identity := by
  rw [source?, shown]
  rfl

namespace IdentifiesRows

variable {table : Table}

/-- Other rows in the place of those of a table are told apart if they ascend. -/
theorem withRows
    (identifies : table.IdentifiesRows)
    {rows : List Row}
    (ascending : Ascending rows) :
    ({ table with rows := rows } : Table).IdentifiesRows :=
  ⟨⟨⟨identifies.noKey, identifies.noReplacement⟩, identifies.shown⟩, ascending⟩

theorem finds_ofId (identifies : table.IdentifiesRows) (id : Int64) (row : Row) :
    table.finds (some (Condition.ofId id)) row = (row.id == id) :=
  finds_identity (source?_of_shown identifies.shown) id row

/-- A statement for an id meets at most one row. -/
theorem length_matching_le (identifies : table.IdentifiesRows) (id : Int64) :
    (table.matching (some (Condition.ofId id))).length ≤ 1 := by
  rw [matching_ofId (source?_of_shown identifies.shown) identifies.ascending]
  exact Option.length_toList_le

/-- What is left when the row under an id is removed. -/
theorem others_ofId (identifies : table.IdentifiesRows) (id : Int64) :
    table.others (some (Condition.ofId id)) = table.rows.filter fun row => !(row.id == id) := by
  apply List.filter_congr
  intro row _
  exact congrArg not (identifies.finds_ofId id row)

end IdentifiesRows

/-- Overwriting by an id leaves a table as it is, or changes the row under the id alone. -/
theorem IdentifiesRows.updateRows_ofId
    {table : Table}
    (identifies : table.IdentifiesRows)
    {id : Int64}
    {cells : List (Nat × Cell)}
    {changed : Nat}
    {after : Table}
    (updates :
      Database.updateRows table cells (table.matching (some (Condition.ofId id))) =
        .ok (changed, after)) :
    after = table ∨
      after =
        { table with
          rows :=
            table.rows.map fun row => if row.id == id then row.overwrite cells else row } := by
  rw [matching_ofId (source?_of_shown identifies.shown) identifies.ascending] at updates
  cases found : table.row? id with
  | none =>
      rw [found] at updates
      cases updates
      exact .inl rfl
  | some row =>
      rcases mem_of_row? found with ⟨member, rfl⟩
      rw [found] at updates
      rcases Outcome.bind_eq_ok_iff.mp updates with ⟨⟨isDone, next⟩, updatesRow, isResult⟩
      cases isResult
      rcases (Database.overwrites_updateRow updatesRow).eq_or identifies.toKeepsRivals
          identifies.ascending member with same | overwritten
      · cases same
        exact .inl rfl
      · cases overwritten
        exact .inr rfl

end Table

/-! ## Tables of the database itself -/

/-- The database alone changes its own tables, and those that have rows are lists of tables. -/
theorem Catalogue.of_find?
    {tables : List Table}
    {name : String}
    {table : Table}
    (found : find? tables name = some table) :
    table.isFixed = true ∧ table.key = none ∧
      (table.columns = listColumns ∨ table.rows = []) := by
  rcases Option.map_eq_some_iff.mp found with ⟨entry, isEntry, rfl⟩
  rcases List.mem_append.mp (List.mem_of_find?_eq_some isEntry) with isList | isFunction
  · have isOne : entry.2 = created tables ∨ entry.2 = onTrial := by
      simp only [lists, List.mem_cons, List.not_mem_nil, or_false] at isList
      rcases isList with rfl | rfl | rfl | rfl
      · exact .inl rfl
      · exact .inl rfl
      · exact .inr rfl
      · exact .inr rfl
    rcases isOne with same | same
    · rw [same]
      exact ⟨rfl, rfl, .inl rfl⟩
    · rw [same]
      exact ⟨rfl, rfl, .inl rfl⟩
  · rcases List.mem_map.mp isFunction with ⟨described, _, rfl⟩
    exact ⟨rfl, rfl, .inr rfl⟩

namespace Database

variable {database changed : Database} {name : String} {id : Int64}

/-- Rows are changed only in tables that were created. -/
theorem table?_of_getOwnTable
    {table : Table}
    (found : database.getOwnTable name = .ok table) :
    database.table? name = some table := by
  rcases getOwnTable_eq_ok_iff.mp found with ⟨isRelation, notFixed⟩
  rw [relation?] at isRelation
  cases isOwn : database.table? name with
  | some own =>
      rw [isOwn] at isRelation
      exact isRelation
  | none =>
      rw [isOwn] at isRelation
      have isFixed := (Catalogue.of_find? isRelation).1
      rw [notFixed] at isFixed
      contradiction

/-! ## Changes of one row -/

/-- Between two databases only the row under an id changes, in the table with a name. -/
structure ChangesOnly (before after : Database) (name : String) (id : Int64) : Prop where
  otherRows : ∀ other, other ≠ id → after.row? name other = before.row? name other
  otherTables :
    ∀ other, Text.sameName name other = false → after.table? other = before.table? other

theorem ChangesOnly.refl (database : Database) (name : String) (id : Int64) :
    database.ChangesOnly database name id :=
  ⟨fun _ _ => rfl, fun _ _ => rfl⟩

theorem changesOnly_replaceTable
    {table : Table}
    (found : database.table? name = some table)
    {rows : List Row}
    (otherRows :
      ∀ other, other ≠ id →
        ({ table with rows := rows } : Table).row? other = table.row? other) :
    database.ChangesOnly (database.replaceTable { table with rows := rows }) name id := by
  have keepsName : ({ table with rows := rows } : Table).name = table.name := rfl
  constructor
  · intro other apart
    rw [row?_replaceTable found keepsName, row?_eq found, otherRows other apart]
  · intro other differs
    rw [table?_replaceTable found keepsName, differs, if_neg Bool.false_ne_true]

/-! ## Writing -/

/-- The rows of the table with a name are told apart by their ids, if there is one. -/
def IdentifiesRows (database : Database) (name : String) : Prop :=
  ∀ table, database.table? name = some table → table.IdentifiesRows

namespace IdentifiesRows

theorem replaceTable
    {table : Table}
    (found : database.table? name = some table)
    {rows : List Row}
    (identifies : ({ table with rows := rows } : Table).IdentifiesRows) :
    (database.replaceTable { table with rows := rows }).IdentifiesRows name := by
  have keepsName : ({ table with rows := rows } : Table).name = table.name := rfl
  intro other isOther
  rw [table?_replaceTable found keepsName, Text.sameName_self, if_pos rfl] at isOther
  rw [← Option.some.inj isOther]
  exact identifies

/-- Overwriting by an id changes at most the row under it. -/
theorem of_update
    (identifies : database.IdentifiesRows name)
    {assignments : List (String × Value)}
    {effect : Effect}
    (updates : database.update name assignments (Condition.ofId id) = .ok effect) :
    effect.database.IdentifiesRows name ∧ database.ChangesOnly effect.database name id := by
  rcases exists_own_of_update updates with ⟨table, cells, after, isOwn, _, runs, isChanged⟩
  have found := table?_of_getOwnTable isOwn
  have tableIdentifies := identifies table found
  rw [isChanged]
  rcases tableIdentifies.updateRows_ofId runs with same | overwritten
  · rw [same]
    exact ⟨replaceTable found tableIdentifies, changesOnly_replaceTable found fun _ _ => rfl⟩
  · rw [overwritten]
    constructor
    · apply replaceTable found
      apply tableIdentifies.withRows
      apply tableIdentifies.ascending.map
      intro row
      split <;> rfl
    · apply changesOnly_replaceTable found
      intro other apart
      rw [Table.row?_overwrite, if_neg apart]

/-- Removing keeps the rows apart that are left. -/
theorem of_delete
    (identifies : database.IdentifiesRows name)
    {condition : Option (Condition Value)}
    {number : Nat}
    (deletes : database.delete name condition = .ok (number, changed)) :
    changed.IdentifiesRows name := by
  rcases exists_admits_of_delete deletes with ⟨table, isOwn, _, isResult⟩
  cases isResult
  have found := table?_of_getOwnTable isOwn
  have tableIdentifies := identifies table found
  exact replaceTable found (tableIdentifies.withRows (tableIdentifies.ascending.filter _))

/-- Removing by an id takes at most the row under it. -/
theorem of_delete_ofId
    (identifies : database.IdentifiesRows name)
    {number : Nat}
    (deletes : database.delete name (some (Condition.ofId id)) = .ok (number, changed)) :
    number ≤ 1 ∧ database.ChangesOnly changed name id := by
  rcases exists_admits_of_delete deletes with ⟨table, isOwn, _, isResult⟩
  cases isResult
  have found := table?_of_getOwnTable isOwn
  have tableIdentifies := identifies table found
  refine ⟨tableIdentifies.length_matching_le id, changesOnly_replaceTable found ?_⟩
  intro other apart
  rw [tableIdentifies.others_ofId, Table.row?_filter tableIdentifies.ascending]
  cases isRow : table.row? other with
  | none => rfl
  | some row =>
      apply Option.filter_some_pos
      rw [(Table.mem_of_row? isRow).2]
      simpa using apart

/-- A new row is told apart from those that are there. -/
theorem of_insertCells
    (identifies : database.IdentifiesRows name)
    {given : List (String × Cell)}
    {effect : Effect}
    (inserts : database.insertCells name given = .ok effect) :
    effect.database.IdentifiesRows name := by
  rcases exists_own_of_insertCells inserts with
    ⟨table, resolved, id, isOwn, _, _, rfl | ⟨displaced, accepted, rfl⟩⟩
  · exact identifies
  · have found := table?_of_getOwnTable isOwn
    have tableIdentifies := identifies table found
    apply replaceTable found
    apply tableIdentifies.withRows
    apply (tableIdentifies.ascending.filter _).insertRow
    intro other member sameId
    exact absurd (Table.apart_of_accepted accepted member sameId) (by simp)

end IdentifiesRows

end Database

end RecordStore
