import Mathlib.Algebra.GroupWithZero.Nat
import Mathlib.Data.List.Perm.Subperm
import RecordStore.Proofs.Database.Overwrite

/-!
# Changing a table that was created for fields

A table that was created for fields has a cell for each of them in every row,
holds nothing but stored values, and has no rules.  Inserting, overwriting and
removing rows keep it so.  They are carried out whatever values a record has,
and no other table takes part.  Whatever table they are run on, they change its
rows alone.

Main statements: `Database.insertCells_eq`, `Database.update_eq`,
`Database.table?_replaceTable` and `Database.ChangesRows`.
-/

namespace RecordStore

open Sql (Condition Statement)

/-- A table that was created for fields and holds what was put into them. -/
structure Table.Suits (table : Table) (fields : List String) : Prop where
  columns : table.columns = fields
  own : table.isFixed = false
  noKey : table.key = none
  noRules : table.rules = []
  ascending : Ascending table.rows
  full : ∀ row ∈ table.rows, row.cells.length = fields.length
  stored : ∀ row ∈ table.rows, ∀ cell ∈ row.cells, cell.IsStored

namespace Table.Suits

variable {table : Table} {fields : List String}

theorem filter
    (suits : table.Suits fields)
    (keep : Row → Bool) :
    ({ table with rows := table.rows.filter keep } : Table).Suits fields := by
  constructor
  · exact suits.columns
  · exact suits.own
  · exact suits.noKey
  · exact suits.noRules
  · exact suits.ascending.filter keep
  · intro row member
    exact suits.full row (List.mem_of_mem_filter member)
  · intro row member
    exact suits.stored row (List.mem_of_mem_filter member)

theorem insertRow
    (suits : table.Suits fields)
    {row : Row}
    (isFree : table.row? row.id = none)
    (full : row.cells.length = fields.length)
    (stored : ∀ cell ∈ row.cells, cell.IsStored) :
    ({ table with rows := Table.insertRow row table.rows } : Table).Suits fields := by
  constructor
  · exact suits.columns
  · exact suits.own
  · exact suits.noKey
  · exact suits.noRules
  · exact suits.ascending.insertRow ((Table.row?_eq_none_iff table row.id).mp isFree)
  · intro other member
    rcases Table.mem_insertRow.mp member with rfl | known
    · exact full
    · exact suits.full other known
  · intro other member
    rcases Table.mem_insertRow.mp member with rfl | known
    · exact stored
    · exact suits.stored other known

theorem overwrite
    (suits : table.Suits fields)
    {assigned : List (Nat × Cell)}
    (stored : ∀ cell ∈ assigned.map Prod.snd, cell.IsStored)
    (chosen : Row → Bool) :
    ({ table with
        rows := table.rows.map fun row =>
          if chosen row then row.overwrite assigned else row } : Table).Suits fields := by
  constructor
  · exact suits.columns
  · exact suits.own
  · exact suits.noKey
  · exact suits.noRules
  · apply suits.ascending.map
    intro row
    split <;> rfl
  · intro row member
    rcases List.mem_map.mp member with ⟨old, isOld, rfl⟩
    split
    · rw [Row.length_overwrite]
      exact suits.full old isOld
    · exact suits.full old isOld
  · intro row member cell isCell
    rcases List.mem_map.mp member with ⟨old, isOld, rfl⟩
    split at isCell
    · rcases Row.mem_overwrite isCell with kept | isNew
      · exact suits.stored old isOld cell kept
      · exact stored cell isNew
    · exact suits.stored old isOld cell isCell

end Table.Suits

/-- A statement for an id meets the row under it, if there is one. -/
theorem Table.matching_ofId
    {table : Table}
    (named : table.source? Field.rowIdName = some .identity)
    (ascending : Ascending table.rows)
    (id : Int64) :
    table.matching (some (Condition.ofId id)) = (table.row? id).toList := by
  have finds (row : Row) := Table.finds_identity named id row
  have met : (table.matching (some (Condition.ofId id))).Perm (table.row? id).toList := by
    apply (table.matching_perm _).trans
    rw [List.filter_congr fun row _ => finds row, ascending.filter_id id]
    rfl
  cases found : table.row? id with
  | none =>
      rw [found] at met
      exact List.perm_nil.mp met
  | some row =>
      rw [found] at met
      exact List.perm_singleton.mp met

namespace Database

variable {database : Database} {name : String} {table : Table} {fields : List String}

/-! ## Tables by their names -/

/-- Tables that are replaced are found by the names by which they were found before. -/
theorem sameName_replaced (changed : Table) (other : String) :
    ((fun known : Table => Text.sameName known.name other) ∘ fun known =>
        if Text.sameName known.name changed.name then changed else known) =
      fun known => Text.sameName known.name other := by
  funext known
  rw [Function.comp_apply]
  split
  case isTrue same =>
    simp only [Text.sameName, beq_iff_eq] at same ⊢
    rw [same]
  case isFalse => rfl

theorem isSome_table?_replaceTable (database : Database) (changed : Table) (other : String) :
    ((database.replaceTable changed).table? other).isSome = (database.table? other).isSome := by
  rw [table?, replaceTable, List.find?_map, sameName_replaced, Option.isSome_map]
  rfl

theorem table?_congr
    {other : String}
    (same : Text.sameName name other = true) :
    database.table? other = database.table? name := by
  have sameTest :
      (fun known : Table => Text.sameName known.name other) =
        fun known => Text.sameName known.name name := by
    funext known
    simp only [Text.sameName, beq_iff_eq] at same ⊢
    rw [same]
  rw [table?, sameTest]
  rfl

/-- A table that takes the place of another one is found by the same names. -/
theorem table?_replaceTable
    (found : database.table? name = some table)
    {changed : Table}
    (keepsName : changed.name = table.name)
    (other : String) :
    (database.replaceTable changed).table? other =
      if Text.sameName name other then some changed else database.table? other := by
  have named : Text.sameName table.name name = true := by
    simpa using List.find?_some found
  rw [table?, replaceTable, List.find?_map, sameName_replaced]
  by_cases same : Text.sameName name other = true
  · have isFound :
        database.tables.find? (fun known => Text.sameName known.name other) = some table :=
      (table?_congr same).trans found
    rw [isFound, Option.map_some, keepsName, Text.sameName_self, if_pos same]
    rfl
  · rw [if_neg same]
    cases missing : database.table? other with
    | none => simp [show database.tables.find? _ = none from missing]
    | some known =>
        have isOther : Text.sameName known.name other = true := by
          simpa using List.find?_some missing
        have apart : ¬ Text.sameName known.name changed.name = true := by
          intro sameAsChanged
          rw [keepsName, Text.sameName_comm] at sameAsChanged
          rw [Text.sameName_comm] at named
          exact same (Text.sameName_trans named (Text.sameName_trans sameAsChanged isOther))
        simp [show database.tables.find? _ = some known from missing, apart]

/-- A table that takes its own place changes nothing. -/
theorem table?_replaceTable_self
    (found : database.table? name = some table)
    (other : String) :
    (database.replaceTable table).table? other = database.table? other := by
  rw [table?_replaceTable found rfl]
  split
  · next same => rw [table?_congr same, found]
  · rfl

/-- A table that was missing is created without rows, and the tables that were there are kept. -/
theorem table?_of_createTable
    {changed : Database}
    {columns : List String}
    (isMissing : database.table? name = none)
    (creates : database.createTable name columns = .ok changed) :
    checkColumns name [] columns = .ok () ∧
      ∀ other,
        changed.table? other =
          (database.table? other).or
            (if Text.sameName name other then
              some
                { name := name
                  columns := columns
                  rows := []
                  definition := some (Sql.Statement.definition name columns)
                  affinities := []
                  key := none
                  rules := [] }
            else none) := by
  rcases Outcome.bind_eq_ok_iff.mp creates with ⟨_, _, adding⟩
  rw [isMissing, Option.isSome_none, if_neg Bool.false_ne_true] at adding
  rcases Outcome.bind_eq_ok_iff.mp adding with ⟨_, _, adding⟩
  rcases Outcome.bind_eq_ok_iff.mp adding with ⟨_, accepted, added⟩
  cases added
  refine ⟨accepted, fun other => ?_⟩
  rw [table?, List.find?_append, List.find?_singleton, table?]

/-! ## Tables to be changed -/

theorem relation?_of_table? (found : database.table? name = some table) :
    database.relation? name = some table := by
  rw [relation?, found]
  rfl

theorem getTable_eq (found : database.table? name = some table) :
    database.getTable name = .ok table := by
  rw [getTable, relation?_of_table? found]

theorem getOwnTable_eq
    (found : database.table? name = some table)
    (own : table.isFixed = false) :
    database.getOwnTable name = .ok table := by
  rw [getOwnTable, getTable_eq found, Outcome.ok_bind, own]
  rfl

/-! ## What statements change -/

variable {changed : Database}

/-- A table that may be changed has other rows, or nothing has changed at all. -/
inductive ChangesRows (database : Database) (name : String) : Database → Prop where
  | none
      {table : Table}
      (isOwn : database.getOwnTable name = .ok table) :
      ChangesRows database name database
  | rows
      {table : Table}
      (isOwn : database.getOwnTable name = .ok table)
      (rows : List Row) :
      ChangesRows database name (database.replaceTable { table with rows := rows })

theorem changesRows_of_delete
    {condition : Option (Condition Value)}
    {number : Nat}
    (deletes : database.delete name condition = .ok (number, changed)) :
    database.ChangesRows name changed := by
  rcases exists_admits_of_delete deletes with ⟨table, isOwn, _, isResult⟩
  cases isResult
  exact .rows isOwn _

theorem changesRows_of_update
    {assignments : List (String × Value)}
    {condition : Condition Value}
    {effect : Effect}
    (updates : database.update name assignments condition = .ok effect) :
    database.ChangesRows name effect.database := by
  rcases exists_own_of_update updates with ⟨table, cells, after, isOwn, _, runs, isChanged⟩
  rw [isChanged, sameButRows_of_updateRows runs]
  exact .rows isOwn _

theorem changesRows_of_insertCells
    {given : List (String × Cell)}
    {effect : Effect}
    (inserts : database.insertCells name given = .ok effect) :
    database.ChangesRows name effect.database := by
  rcases exists_own_of_insertCells inserts with ⟨table, _, _, isOwn, _, _, rfl | ⟨_, _, rfl⟩⟩
  · exact .none isOwn
  · exact .rows isOwn _

/-- Where rows change, the tables are those that were there. -/
theorem ChangesRows.isSome_table?
    (changes : database.ChangesRows name changed)
    (other : String) :
    (changed.table? other).isSome = (database.table? other).isSome := by
  cases changes with
  | none => rfl
  | rows => exact isSome_table?_replaceTable _ _ _

/-! ## Placeholders -/

theorem marks_listNames (names : List String) :
    Sql.marks (Statement.listNames names) = (names.map Sql.marks).sum := by
  have separator : Sql.marks ", " = 0 := by decide
  show Sql.marks (", ".intercalate names) = _
  induction names with
  | nil => rfl
  | cons first rest induction =>
      cases rest with
      | nil => simp
      | cons second others =>
          rw [String.intercalate_cons_cons, Sql.marks_append, Sql.marks_append, induction,
            separator]
          simp

/-- What a record stores for the columns of a table: distinct columns, with values. -/
structure Fits (fields : List String) (assignments : List (String × Value)) : Prop where
  known : ∀ entry ∈ assignments, entry.1 ∈ fields
  apart : (assignments.map Prod.fst).Nodup

variable {assignments : List (String × Value)}

theorem Fits.length_le
    (fits : Fits fields assignments) :
    assignments.length ≤ fields.length := by
  have within : assignments.map Prod.fst ⊆ fields := by
    intro column member
    rcases List.mem_map.mp member with ⟨entry, isAssigned, rfl⟩
    exact fits.known entry isAssigned
  simpa using (List.Nodup.subperm fits.apart within).length_le

/-- Names that are columns have no placeholders, so that only those for the values count. -/
theorem sum_marks
    (areFields : AreFields fields)
    (fits : Fits fields assignments)
    (mark : String) :
    (assignments.map fun entry => Sql.marks (entry.1 ++ mark)).sum =
      assignments.length * Sql.marks mark := by
  have each : ∀ entry ∈ assignments, Sql.marks (entry.1 ++ mark) = Sql.marks mark := by
    intro entry member
    rw [Sql.marks_append, areFields.marks_eq_zero (fits.known entry member), Nat.zero_add]
  rw [List.map_congr_left each, List.map_const', List.sum_replicate_nat]

theorem checkParameters_insert
    (areFields : AreFields fields)
    (fits : Fits fields assignments)
    (plain : Sql.marks name = 0) :
    checkParameters (Statement.insert name assignments).text = .ok () := by
  apply (checkParameters_eq_ok_iff _).mpr
  have start : Sql.marks "INSERT INTO " = 0 := by decide
  have few : assignments.length ≤ maximalParameters :=
    (fits.length_le.trans areFields.few).trans (by decide)
  cases isGiven : assignments with
  | nil =>
      show Sql.marks ("INSERT INTO " ++ name ++ " DEFAULT VALUES;") ≤ _
      have finish : Sql.marks " DEFAULT VALUES;" = 0 := by decide
      rw [Sql.marks_append, Sql.marks_append, plain, start, finish]
      exact Nat.zero_le _
  | cons first rest =>
      have names : (assignments.map fun entry => Sql.marks (entry.1 ++ "")).sum = 0 :=
        (sum_marks areFields fits "").trans (Nat.mul_zero _)
      show
        Sql.marks
            ("INSERT INTO " ++ name ++ " (" ++
              Statement.listNames ((first :: rest).map Prod.fst) ++ ") VALUES (" ++
              String.ofList (Condition.placeholders ((first :: rest).map Prod.fst).length) ++
              ");") ≤ _
      rw [← isGiven]
      have opening : Sql.marks " (" = 0 := by decide
      have between : Sql.marks ") VALUES (" = 0 := by decide
      have finish : Sql.marks ");" = 0 := by decide
      have placeholders (number : Nat) :
          Sql.marks (String.ofList (Condition.placeholders number)) = number := by
        rw [Sql.marks, String.toList_ofList, Condition.count_placeholders]
      simp only [String.append_empty] at names
      simp only [Sql.marks_append, marks_listNames, List.map_map, Function.comp_def, names, plain,
        start, opening, between, finish, placeholders, List.length_map]
      omega

theorem checkParameters_update
    (areFields : AreFields fields)
    (fits : Fits fields assignments)
    (plain : Sql.marks name = 0)
    (id : Value) :
    checkParameters (Statement.update name assignments id).text = .ok () := by
  apply (checkParameters_eq_ok_iff _).mpr
  have few := fits.length_le.trans areFields.few
  have setting : Sql.marks " = ?" = 1 := by decide
  have settings := sum_marks areFields fits " = ?"
  rw [setting, Nat.mul_one] at settings
  have start : Sql.marks "UPDATE " = 0 := by decide
  have keyword : Sql.marks " SET " = 0 := by decide
  have finish : Sql.marks (" WHERE " ++ Field.rowIdName ++ " = ?;") = 1 := by decide
  have allowed : maximalColumns < maximalParameters := by decide
  show
    Sql.marks
        ("UPDATE " ++ name ++ " SET " ++
          Statement.listNames (assignments.map fun entry => entry.1 ++ " = ?") ++ " WHERE " ++
          Field.rowIdName ++ " = ?;") ≤ _
  simp only [Sql.marks_append] at finish
  simp only [Sql.marks_append, marks_listNames, List.map_map, Function.comp_def] at settings ⊢
  omega

/-! ## New rows -/

theorem resolveRow_eq
    (areFields : AreFields table.columns)
    (noKey : table.key = none)
    {given : List (String × Cell)}
    (known : ∀ entry ∈ given, entry.1 ∈ table.columns) :
    resolveRow table name given =
      .ok ((table.placed given).map fun entry => (.column entry.1, entry.2)) := by
  induction given with
  | nil => rfl
  | cons entry rest induction =>
      rcases entry with ⟨column, cell⟩
      have isColumn : column ∈ table.columns := known (column, cell) List.mem_cons_self
      rw [resolveRow, Table.columnIndex?_eq areFields isColumn,
        induction fun other member => known other (List.mem_cons_of_mem (column, cell) member)]
      simp only [Table.columnSource_of_noKey noKey]
      rfl

theorem newId_placed (given : List (Nat × Cell)) :
    newId table (given.map fun entry => (.column entry.1, entry.2)) = freshId table := by
  have noIdentity :
      (given.map fun entry => (Source.column entry.1, entry.2)).find?
        (fun entry => entry.1 == .identity) = none := by
    apply List.find?_eq_none.mpr
    intro entry member
    rcases List.mem_map.mp member with ⟨place, _, rfl⟩
    simp
  rw [newId, noIdentity]
  rfl

/-- The cells that a new row has for the columns of a table. -/
def newCellsOf (fields : List String) (assignments : List (String × Value)) : List Cell :=
  fields.map fun column => Cell.ofValue ((Json.member? column assignments).getD .null)

theorem Fits.known_map
    (fits : Fits fields assignments) :
    ∀ entry ∈ assignments.map fun entry => (entry.1, Cell.ofValue entry.2),
      entry.1 ∈ fields := by
  intro entry member
  rcases List.mem_map.mp member with ⟨assigned, isAssigned, rfl⟩
  exact fits.known assigned isAssigned

/-- The cells of a new row are those that are meant for its columns. -/
theorem newCells_placed
    (areFields : AreFields table.columns)
    (fits : Fits table.columns assignments) :
    table.newCells
        ((table.placed (assignments.map fun entry => (entry.1, Cell.ofValue entry.2))).map
          fun entry => (.column entry.1, entry.2)) =
      newCellsOf table.columns assignments := by
  rw [Table.newCells_fields areFields fits.known_map]
  apply List.map_congr_left
  intro column _
  rw [Json.member?_map]
  cases Json.member? column assignments <;> rfl

/-- Fields that are columns give a new row, if there is an id left for it. -/
theorem insertCells_eq
    (found : database.table? name = some table)
    (suits : table.Suits fields)
    (areFields : AreFields fields)
    (fits : Fits fields assignments) :
    database.insertCells name (assignments.map fun entry => (entry.1, Cell.ofValue entry.2)) =
      (freshId table).map fun id =>
        { changed := 1
          inserted := some id
          database :=
            database.replaceTable
              { table with
                rows := Table.insertRow ⟨id, newCellsOf fields assignments⟩ table.rows } } := by
  have columns := suits.columns
  subst columns
  rw [insertCells, getOwnTable_eq found suits.own, Outcome.ok_bind,
    resolveRow_eq areFields suits.noKey fits.known_map, Outcome.ok_bind, newId_placed]
  cases isFresh : freshId table with
  | error fault => rfl
  | ok id =>
      have isFree := (Table.row?_eq_none_iff table id).mp (row?_of_freshId isFresh)
      have accepted :
          table.verdict none ⟨id, newCellsOf table.columns assignments⟩ = .accepted [] :=
        Table.verdict_of_noRules suits.noRules fun other member sameId =>
          absurd sameId (isFree other member)
      rw [Outcome.ok_bind, newCells_placed areFields fits]
      simp only [Table.numbered_of_noKey suits.noKey, accepted, Table.without_nil]
      rfl

/-- The text of a statement for a new row is carried out, if there is an id left for it. -/
theorem execute_insert_eq
    (found : database.table? name = some table)
    (suits : table.Suits fields)
    (areFields : AreFields fields)
    (fits : Fits fields assignments)
    (isTable : Identifier.check name = .ok ()) :
    database.execute (Statement.insert name assignments).text
        (Statement.insert name assignments).parameters =
      (freshId table).map fun id =>
        { changed := 1
          inserted := some id
          database :=
            database.replaceTable
              { table with
                rows := Table.insertRow ⟨id, newCellsOf fields assignments⟩ table.rows } } := by
  have plain : Sql.marks name = 0 := (isColumn_of_check isTable).count_placeholder
  have areColumns (entry : String × Value) (member : entry ∈ assignments) :=
    areFields.areIdentifiers entry.1 (fits.known entry member)
  rw [execute_insert isTable areColumns, checkParameters_insert areFields fits plain,
    Outcome.ok_bind, insertCells_eq found suits areFields fits]

/-! ## Overwriting rows -/

theorem resolveAssignments_eq
    (areFields : AreFields table.columns)
    (known : ∀ entry ∈ assignments, entry.1 ∈ table.columns) :
    resolveAssignments table assignments =
      .ok (table.placed (assignments.map fun entry => (entry.1, Cell.ofValue entry.2))) := by
  induction assignments with
  | nil => rfl
  | cons entry rest induction =>
      rcases entry with ⟨column, value⟩
      have isColumn : column ∈ table.columns := known (column, value) List.mem_cons_self
      rw [resolveAssignments, Table.columnIndex?_eq areFields isColumn]
      simp only [induction fun other member =>
        known other (List.mem_cons_of_mem (column, value) member)]
      rfl

/-- The row under an id is overwritten, if there is one, and no other. -/
theorem updateRows_eq
    (suits : table.Suits fields)
    (id : Int64)
    (cells : List (Nat × Cell)) :
    updateRows table cells (table.row? id).toList =
      .ok
        (if (table.row? id).isSome then 1 else 0,
          { table with
            rows := table.rows.map fun row =>
              if row.id == id then row.overwrite cells else row }) := by
  cases found : table.row? id with
  | none =>
      have unchanged :
          (table.rows.map fun row => if row.id == id then row.overwrite cells else row) =
            table.rows := by
        rw [← List.map_id table.rows, List.map_map]
        apply List.map_congr_left
        intro row member
        have apart := (Table.row?_eq_none_iff table id).mp found row member
        simp [apart]
      rw [unchanged]
      rfl
  | some row =>
      rcases Table.mem_of_row? found with ⟨member, rfl⟩
      have accepted : table.verdict (some row.id) (row.overwrite cells) = .accepted [] :=
        Table.verdict_of_noRules suits.noRules fun other _ sameId => congrArg some sameId
      have overwritten :
          updateRow table cells row =
            .ok (true, changeRow table row.id (row.overwrite cells)) := by
        have sameRow :
            ({ row.overwrite cells with id := row.id } : Row) = row.overwrite cells :=
          rfl
        simp only [updateRow, found, Option.isNone_some, Bool.false_eq_true, if_false,
          assignedId_of_noKey suits.noKey, Outcome.ok_bind, Table.numbered_of_noKey suits.noKey,
          sameRow, accepted, Table.without_nil]
      show updateRows table cells [row] = _
      rw [updateRows, overwritten, changeRow_overwrite suits.ascending member]
      rfl

/-- Overwriting meets the row with the id, if there is one, and no other. -/
theorem update_eq
    (found : database.table? name = some table)
    (suits : table.Suits fields)
    (areFields : AreFields fields)
    (fits : Fits fields assignments)
    (id : Int64) :
    database.update name assignments (Condition.ofId id) =
      .ok
        { changed := if (table.row? id).isSome then 1 else 0
          inserted := none
          database :=
            database.replaceTable
              { table with
                rows := table.rows.map fun row =>
                  if row.id == id then
                    row.overwrite
                      (table.placed
                        (assignments.map fun entry => (entry.1, Cell.ofValue entry.2)))
                  else row } } := by
  have columns := suits.columns
  subst columns
  have named := Table.source?_rowIdName areFields
  have shallow : checkDepth (some (Condition.ofId id)) = .ok () := rfl
  have known :
      (Condition.ofId id).columns.find? (fun column => (table.source? column).isNone) = none := by
    simp [Condition.ofId, Condition.columns, named]
  rw [update, shallow, Outcome.ok_bind, getOwnTable_eq found suits.own, Outcome.ok_bind,
    resolveAssignments_eq areFields fits.known, Outcome.ok_bind, known,
    Table.matching_ofId named suits.ascending, updateRows_eq suits]
  rfl

/-- The text of a statement that overwrites the row under an id is carried out. -/
theorem execute_update_eq
    (found : database.table? name = some table)
    (suits : table.Suits fields)
    (areFields : AreFields fields)
    (fits : Fits fields assignments)
    (isTable : Identifier.check name = .ok ())
    (hasColumn : assignments ≠ [])
    (id : Int64) :
    database.execute (Statement.update name assignments (.integer id)).text
        (Statement.update name assignments (.integer id)).parameters =
      .ok
        { changed := if (table.row? id).isSome then 1 else 0
          inserted := none
          database :=
            database.replaceTable
              { table with
                rows := table.rows.map fun row =>
                  if row.id == id then
                    row.overwrite
                      (table.placed
                        (assignments.map fun entry => (entry.1, Cell.ofValue entry.2)))
                  else row } } := by
  have plain : Sql.marks name = 0 := (isColumn_of_check isTable).count_placeholder
  have areColumns (entry : String × Value) (member : entry ∈ assignments) :=
    areFields.areIdentifiers entry.1 (fits.known entry member)
  rw [execute_update isTable areColumns hasColumn, checkParameters_update areFields fits plain,
    Outcome.ok_bind, update_eq found suits areFields fits]

/-! ## Rows afterwards -/

theorem row?_replaceTable
    (found : database.table? name = some table)
    {changed : Table}
    (keepsName : changed.name = table.name)
    (id : Int64) :
    (database.replaceTable changed).row? name id =
      (changed.row? id).map fun row => changed.columns.zip row.cells := by
  rw [row?, table?_replaceTable found keepsName, Text.sameName_self]
  rfl

theorem row?_eq (found : database.table? name = some table) (id : Int64) :
    database.row? name id = (table.row? id).map fun row => table.columns.zip row.cells := by
  rw [row?, found]
  rfl

end Database

namespace Table

variable {table : Table} {fields : List String}

theorem row?_insertRow
    {row : Row}
    (isFree : table.row? row.id = none)
    (id : Int64) :
    ({ table with rows := insertRow row table.rows } : Table).row? id =
      if id = row.id then some row else table.row? id :=
  find?_insertRow ((row?_eq_none_iff table row.id).mp isFree) id

theorem row?_overwrite
    (assigned : List (Nat × Cell))
    (id other : Int64) :
    ({ table with
        rows := table.rows.map fun row =>
          if row.id == id then row.overwrite assigned else row } : Table).row? other =
      if other = id then (table.row? other).map fun row => row.overwrite assigned
      else table.row? other := by
  have sameTest :
      ((fun row : Row => row.id == other) ∘ fun row =>
          if row.id == id then row.overwrite assigned else row) =
        fun row => row.id == other := by
    funext row
    rw [Function.comp_apply]
    split <;> rfl
  show (table.rows.map _).find? _ = _
  rw [List.find?_map, sameTest]
  show (table.row? other).map _ = _
  cases found : table.row? other with
  | none => simp
  | some row =>
      have isOther := (mem_of_row? found).2
      by_cases same : other = id
      · simp [isOther, same]
      · simp [isOther, same]

/-- A row stays under its id if it is kept, and nothing else comes there. -/
theorem row?_filter
    (ascending : Ascending table.rows)
    (keep : Row → Bool)
    (id : Int64) :
    ({ table with rows := table.rows.filter keep } : Table).row? id =
      (table.row? id).filter keep := by
  have keptAscending := ascending.filter keep
  cases found : table.row? id with
  | none =>
      apply (row?_eq_none_iff _ id).mpr
      intro row member
      exact (row?_eq_none_iff table id).mp found row (List.mem_of_mem_filter member)
  | some row =>
      rcases mem_of_row? found with ⟨member, rfl⟩
      by_cases isKept : keep row = true
      · rw [Option.filter_some_pos isKept]
        exact row?_of_mem keptAscending (List.mem_filter.mpr ⟨member, isKept⟩)
      · rw [Option.filter_some_neg (Bool.not_eq_true _ ▸ isKept)]
        apply (row?_eq_none_iff _ row.id).mpr
        intro other otherKept sameId
        have isSame : other = row :=
          List.inj_on_of_nodup_map ascending.ids_nodup (List.mem_of_mem_filter otherKept)
            member sameId
        exact isKept (isSame ▸ List.of_mem_filter otherKept)

end Table

end RecordStore
