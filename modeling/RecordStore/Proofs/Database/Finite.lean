import RecordStore.Proofs.Database.Identity

/-!
# Tables without infinities

A table that was created for fields and holds finite values can be spelled in
JSON.  It stays one whatever statements store, remove and create, as long as
the values that are stored are finite: under its own name or another one, and
for its own fields or others.

Main statements: `Database.HasSpellable.of_update`, `Database.HasSpellable.of_insertCells`,
`Database.HasSpellable.of_delete` and `Database.HasSpellable.of_createTable`.
-/

namespace RecordStore

/-! ## Finite cells -/

/-- The cell is no infinity and no NaN. -/
def Cell.isFinite : Cell → Bool
  | real number => number.isFinite
  | _ => true

theorem Cell.isFinite_ofValue
    {value : Value}
    (isFinite : value.isFinite = true) :
    (ofValue value).isFinite = true := by
  cases value with
  | real number =>
      rw [ofValue]
      split
      · rfl
      · exact isFinite
  | _ => rfl

namespace Table

variable {table : Table} {fields : List String}

/-- A table that was created for fields and holds finite values. -/
structure IsSpellable (table : Table) (fields : List String) : Prop extends table.Suits fields where
  finite : ∀ row ∈ table.rows, ∀ cell ∈ row.cells, cell.isFinite = true

theorem IsSpellable.filter
    (spellable : table.IsSpellable fields)
    (keep : Row → Bool) :
    ({ table with rows := table.rows.filter keep } : Table).IsSpellable fields :=
  ⟨spellable.toSuits.filter keep,
    fun row member => spellable.finite row (List.mem_of_mem_filter member)⟩

theorem IsSpellable.insertRow
    (spellable : table.IsSpellable fields)
    {row : Row}
    (isFree : table.row? row.id = none)
    (full : row.cells.length = fields.length)
    (stored : ∀ cell ∈ row.cells, cell.IsStored ∧ cell.isFinite = true) :
    ({ table with rows := Table.insertRow row table.rows } : Table).IsSpellable fields := by
  refine ⟨spellable.toSuits.insertRow isFree full fun cell isCell => (stored cell isCell).1, ?_⟩
  intro other member cell isCell
  rcases mem_insertRow.mp member with rfl | known
  · exact (stored cell isCell).2
  · exact spellable.finite other known cell isCell

/-- A row that comes in the place of the one under its id. -/
theorem IsSpellable.changeRow
    (spellable : table.IsSpellable fields)
    {row : Row}
    (full : row.cells.length = fields.length)
    (stored : ∀ cell ∈ row.cells, cell.IsStored ∧ cell.isFinite = true) :
    (Database.changeRow table row.id row).IsSpellable fields := by
  have ascending :=
    Database.ascending_changeRow spellable.ascending
      fun other _ (sameId : other.id = row.id) => sameId
  rw [Database.changeRow, if_pos rfl] at ascending ⊢
  have isOld {other : Row} (member : other ∈ table.rows.map fun known =>
      if known.id == row.id then row else known) : other = row ∨ other ∈ table.rows := by
    rcases List.mem_map.mp member with ⟨known, isKnown, rfl⟩
    split
    · exact .inl rfl
    · exact .inr isKnown
  constructor
  · constructor
    · exact spellable.columns
    · exact spellable.own
    · exact spellable.noKey
    · exact spellable.noRules
    · exact ascending
    · intro other member
      rcases isOld member with rfl | known
      · exact full
      · exact spellable.full other known
    · intro other member cell isCell
      rcases isOld member with rfl | known
      · exact (stored cell isCell).1
      · exact spellable.stored other known cell isCell
  · intro other member cell isCell
    rcases isOld member with rfl | known
    · exact (stored cell isCell).2
    · exact spellable.finite other known cell isCell

/-- A row is overwritten in its place by what is stored and finite. -/
theorem IsSpellable.of_overwrites
    (spellable : table.IsSpellable fields)
    {cells : List (Nat × Cell)}
    (assigned : ∀ cell ∈ cells.map Prod.snd, cell.IsStored ∧ cell.isFinite = true)
    {row : Row}
    (full : row.cells.length = fields.length)
    (stored : ∀ cell ∈ row.cells, cell.IsStored ∧ cell.isFinite = true)
    {result : Bool × Table}
    (overwrites : Database.Overwrites table cells row result) :
    result.2.IsSpellable fields := by
  cases overwrites with
  | left => exact spellable
  | @replaced id displaced isId accepted =>
      rw [Database.assignedId_of_noKey spellable.noKey] at isId
      cases isId
      rw [numbered_of_noKey spellable.noKey]
      have remaining : (table.without displaced).IsSpellable fields := spellable.filter _
      let overwritten : Row := row.overwrite cells
      show
        (Database.changeRow (table.without displaced) overwritten.id overwritten).IsSpellable
          fields
      apply remaining.changeRow
      · exact (Row.length_overwrite row cells).trans full
      · intro cell isCell
        rcases Row.mem_overwrite isCell with kept | isNew
        · exact stored cell kept
        · exact assigned cell isNew

theorem mem_newCells
    {given : List (Source × Cell)}
    {cell : Cell}
    (member : cell ∈ table.newCells given) :
    cell = .null ∨ cell ∈ given.map Prod.snd := by
  rcases List.mem_map.mp member with ⟨index, _, isCell⟩
  cases found : given.find? fun entry => entry.1 == .column index with
  | none =>
      rw [found] at isCell
      exact .inl isCell.symm
  | some entry =>
      rw [found] at isCell
      exact .inr (List.mem_map.mpr ⟨entry, List.mem_of_find?_eq_some found, isCell⟩)

end Table

namespace Database

theorem cells_of_resolveRow
    {table : Table}
    {name : String}
    {given : List (String × Cell)}
    {resolved : List (Source × Cell)}
    (resolves : resolveRow table name given = .ok resolved) :
    resolved.map Prod.snd = given.map Prod.snd := by
  induction given generalizing resolved with
  | nil =>
      cases resolves
      rfl
  | cons entry rest induction =>
      have hasSource :
          ∃ source,
            (resolveRow table name rest >>= fun others => .ok ((source, entry.2) :: others)) =
              .ok resolved := by
        rw [resolveRow] at resolves
        split at resolves
        · exact ⟨_, resolves⟩
        · split at resolves
          · exact ⟨_, resolves⟩
          · contradiction
      rcases hasSource with ⟨source, resolves⟩
      rcases Outcome.bind_eq_ok_iff.mp resolves with ⟨others, areOthers, isResolved⟩
      cases isResolved
      rw [List.map_cons, List.map_cons, induction areOthers]

theorem cells_of_resolveAssignments
    {table : Table}
    {assignments : List (String × Value)}
    {resolved : List (Nat × Cell)}
    (resolves : resolveAssignments table assignments = .ok resolved) :
    resolved.map Prod.snd = assignments.map fun entry => Cell.ofValue entry.2 := by
  induction assignments generalizing resolved with
  | nil =>
      cases resolves
      rfl
  | cons entry rest induction =>
      rw [resolveAssignments] at resolves
      split at resolves
      · contradiction
      · rcases Outcome.bind_eq_ok_iff.mp resolves with ⟨others, areOthers, isResolved⟩
        cases isResolved
        rw [List.map_cons, List.map_cons, induction areOthers]

/-! ## Databases with a finite table -/

variable {database changed : Database} {name other : String} {fields : List String}

/-- Under a name stands a table that was created for fields and holds finite values. -/
def HasSpellable (database : Database) (name : String) (fields : List String) : Prop :=
  ∃ table, database.table? name = some table ∧ table.IsSpellable fields

namespace HasSpellable

variable (has : database.HasSpellable name fields)

include has

/-- What becomes of a table, it stays spellable if it was the one in question. -/
theorem replaceTable
    {table : Table}
    (found : database.table? other = some table)
    {rows : List Row}
    (keeps :
      table.IsSpellable fields → ({ table with rows := rows } : Table).IsSpellable fields) :
    (database.replaceTable { table with rows := rows }).HasSpellable name fields := by
  have keepsName : ({ table with rows := rows } : Table).name = table.name := rfl
  rcases has with ⟨known, isKnown, spellable⟩
  rw [HasSpellable, table?_replaceTable found keepsName]
  split
  · next same =>
      rw [table?_congr same, found] at isKnown
      cases isKnown
      exact ⟨_, rfl, keeps spellable⟩
  · exact ⟨known, isKnown, spellable⟩

theorem of_createTable
    {columns : List String}
    (isMissing : database.table? other = none)
    (creates : database.createTable other columns = .ok changed) :
    changed.HasSpellable name fields := by
  rcases has with ⟨known, isKnown, spellable⟩
  refine ⟨known, ?_, spellable⟩
  rw [(table?_of_createTable isMissing creates).2, isKnown]
  rfl

theorem of_delete
    {condition : Option (Sql.Condition Value)}
    {number : Nat}
    (deletes : database.delete other condition = .ok (number, changed)) :
    changed.HasSpellable name fields := by
  rcases exists_admits_of_delete deletes with ⟨table, isOwn, _, isResult⟩
  cases isResult
  exact has.replaceTable (table?_of_getOwnTable isOwn) fun spellable => spellable.filter _

variable
    {assignments : List (String × Value)}
    (areFinite : ∀ entry ∈ assignments, entry.2.isFinite = true)

include areFinite

theorem of_update
    {condition : Sql.Condition Value}
    {effect : Effect}
    (updates : database.update other assignments condition = .ok effect) :
    effect.database.HasSpellable name fields := by
  rcases exists_own_of_update updates with ⟨table, cells, after, isOwn, resolves, runs, isChanged⟩
  have assigned : ∀ cell ∈ cells.map Prod.snd, cell.IsStored ∧ cell.isFinite = true := by
    intro cell isCell
    rw [cells_of_resolveAssignments resolves] at isCell
    rcases List.mem_map.mp isCell with ⟨entry, member, rfl⟩
    exact ⟨Cell.isStored_ofValue entry.2, Cell.isFinite_ofValue (areFinite entry member)⟩
  have sameButRows := sameButRows_of_updateRows runs
  rw [isChanged, sameButRows]
  refine has.replaceTable (table?_of_getOwnTable isOwn) fun spellable => ?_
  rw [← sameButRows]
  refine
    updateRows_induction (motive := fun current => current.IsSpellable fields) ?_ runs spellable
  intro current result row member overwrites isSpellable
  have isRow : row ∈ table.rows := ((table.mem_matching _ row).mp member).1
  exact
    isSpellable.of_overwrites assigned (spellable.full row isRow)
      (fun cell isCell => ⟨spellable.stored row isRow cell isCell,
        spellable.finite row isRow cell isCell⟩)
      overwrites

theorem of_insertCells
    {effect : Effect}
    (inserts :
      database.insertCells other
        (assignments.map fun entry => (entry.1, Cell.ofValue entry.2)) = .ok effect) :
    effect.database.HasSpellable name fields := by
  rcases exists_own_of_insertCells inserts with
    ⟨table, resolved, id, isOwn, resolves, _, rfl | ⟨displaced, accepted, rfl⟩⟩
  · exact has
  · refine has.replaceTable (table?_of_getOwnTable isOwn) fun spellable => ?_
    rw [Table.numbered_of_noKey spellable.noKey] at accepted ⊢
    have remaining : (table.without displaced).IsSpellable fields := spellable.filter _
    apply remaining.insertRow
    · apply (Table.row?_eq_none_iff _ id).mpr
      intro row member sameId
      exact absurd (Table.apart_of_accepted accepted member sameId) (by simp)
    · rw [Table.newCells, List.length_map, List.length_range, spellable.columns]
    · intro cell isCell
      rcases Table.mem_newCells isCell with rfl | isGiven
      · exact ⟨⟨.null, rfl⟩, rfl⟩
      · rw [cells_of_resolveRow resolves, List.map_map] at isGiven
        rcases List.mem_map.mp isGiven with ⟨entry, member, rfl⟩
        exact ⟨Cell.isStored_ofValue entry.2, Cell.isFinite_ofValue (areFinite entry member)⟩

end HasSpellable

end Database

end RecordStore
