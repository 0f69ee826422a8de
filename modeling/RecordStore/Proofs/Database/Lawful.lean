import RecordStore.Proofs.Database.Cell
import RecordStore.Proofs.Database.Change

/-!
# Rows that keep the rules of their table

No rule objects to a row that is in the table already, and none does after a row
has been added or overwritten: what the rules would object to has gone by then,
or the row is not taken.  A row that is overwritten with its own cells is
therefore always taken, and the table stays as it is.

Main statements: `Table.IsLawful.of_accepted`, `Table.Carries.of_insertCells`,
`Table.Carries.of_update` and `Table.Carries.update_self`.
-/

namespace RecordStore

open Sql (Condition)

theorem Row.agrees_comm
    {one other : Row}
    {columns : List Nat}
    (agrees : one.agrees other columns = true) :
    other.agrees one columns = true := by
  apply List.all_eq_true.mpr
  intro index member
  have same := List.all_eq_true.mp agrees index member
  exact beq_iff_eq.mpr (Comparison.outcome_equal_comm (beq_iff_eq.mp same))

namespace Table

variable {table : Table} {own : Option Int64} {row : Row}

/-- The rows of a table break none of its rules. -/
structure IsLawful (table : Table) : Prop where
  present :
    ∀ column resolution, .present column resolution ∈ table.rules →
      ∀ row ∈ table.rows, (row.cells.getD column .null).isNull = false
  distinct :
    ∀ columns resolution, .distinct columns resolution ∈ table.rules →
      ∀ row ∈ table.rows, ∀ other ∈ table.rows,
        row.agrees other columns = true → other.id = row.id

theorem isLawful_of_noRules (noRules : table.rules = []) : table.IsLawful := by
  constructor <;> intro _ _ isRule <;> rw [noRules] at isRule <;>
    exact absurd isRule List.not_mem_nil

/-! ## What is objected to -/

theorem presenceObjection?_eq_none_iff {column : Nat} {resolution : Resolution} :
    table.presenceObjection? row (.present column resolution) = none ↔
      (row.cells.getD column .null).isNull = false := by
  simp [presenceObjection?]

/-- Whoever agrees with a row is in its way, unless the row takes its place. -/
theorem exists_distinctObjection?
    {columns : List Nat}
    (resolution : Resolution)
    {other : Row}
    (member : other ∈ table.rows)
    (agrees : row.agrees other columns = true)
    (apart : some other.id ≠ own) :
    ∃ objection,
      table.distinctObjection? own row (.distinct columns resolution) = some objection ∧
        other.id ∈ objection.rivals := by
  have isRival : other.id ∈ table.rivals own fun other => row.agrees other columns :=
    mem_rivals.mpr ⟨other, member, rfl, apart, agrees⟩
  rw [distinctObjection?]
  split
  · next isNil =>
      rw [isNil] at isRival
      contradiction
  · exact ⟨_, rfl, isRival⟩

theorem distinctObjection?_eq_none_iff {columns : List Nat} {resolution : Resolution} :
    table.distinctObjection? own row (.distinct columns resolution) = none ↔
      ∀ other ∈ table.rows, row.agrees other columns = true → some other.id = own := by
  constructor
  · intro accepted other member agrees
    by_contra apart
    rcases exists_distinctObjection? resolution member agrees apart with ⟨_, objects, _⟩
    cases accepted.symm.trans objects
  · intro alone
    have noRival : (table.rivals own fun other => row.agrees other columns) = [] := by
      apply List.eq_nil_iff_forall_not_mem.mpr
      intro id isRival
      rcases mem_rivals.mp isRival with ⟨other, member, rfl, apart, agrees⟩
      exact apart (alone other member agrees)
    rw [distinctObjection?, noRival]

/-- A row that stays under its id is not in its own way. -/
theorem identityObjection?_self (table : Table) (row : Row) :
    table.identityObjection? (some row.id) row = none := by
  have noRival : (table.rivals (some row.id) fun other => other.id == row.id) = [] := by
    apply List.eq_nil_iff_forall_not_mem.mpr
    intro id isRival
    rcases mem_rivals.mp isRival with ⟨other, _, rfl, apart, sameId⟩
    exact apart (congrArg some (eq_of_beq sameId))
  rw [identityObjection?, noRival]

namespace IsLawful

/-- Nothing is objected to a row that is there already. -/
theorem verdict_self (lawful : table.IsLawful) (member : row ∈ table.rows) :
    table.verdict (some row.id) row = .accepted [] := by
  have present : table.rules.filterMap (table.presenceObjection? row) = [] := by
    apply List.filterMap_eq_nil_iff.mpr
    rintro (⟨column, resolution⟩ | ⟨columns, resolution⟩) isRule
    · exact presenceObjection?_eq_none_iff.mpr (lawful.present column resolution isRule row member)
    · rfl
  have distinct : table.rules.filterMap (table.distinctObjection? (some row.id) row) = [] := by
    apply List.filterMap_eq_nil_iff.mpr
    rintro (⟨column, resolution⟩ | ⟨columns, resolution⟩) isRule
    · rfl
    · refine distinctObjection?_eq_none_iff.mpr fun other isOther agrees => ?_
      have same := lawful.distinct columns resolution isRule row member other isOther agrees
      exact congrArg some same
  have noObjection : table.objections (some row.id) row = [] := by
    rw [objections, present, identityObjection?_self, distinct]
    rfl
  rw [verdict, noObjection]
  rfl

/-- A row that is taken has what must be there. -/
theorem present_of_accepted
    {displaced : List Int64}
    (accepted : table.verdict own row = .accepted displaced)
    {column : Nat}
    {resolution : Resolution}
    (isRule : .present column resolution ∈ table.rules) :
    (row.cells.getD column .null).isNull = false := by
  apply presenceObjection?_eq_none_iff.mp
  by_contra objects
  rcases Option.ne_none_iff_exists'.mp objects with ⟨objection, isObjection⟩
  have member : objection ∈ table.objections own row := by
    simp only [objections, List.mem_append, List.mem_filterMap]
    exact .inl (.inl ⟨_, isRule, isObjection⟩)
  have replaces := (displaced_of_accepted accepted).1 objection member
  -- Nothing can replace a row for what it lacks itself.
  rw [presenceObjection?] at isObjection
  split at isObjection
  · cases isObjection
    dsimp only at replaces
    split at replaces
    · contradiction
    · next keeps => exact keeps replaces
  · contradiction

/-- A row that is taken agrees with none of those that stay beside it. -/
theorem apart_of_accepted
    {displaced : List Int64}
    (accepted : table.verdict own row = .accepted displaced)
    {columns : List Nat}
    {resolution : Resolution}
    (isRule : .distinct columns resolution ∈ table.rules)
    {other : Row}
    (member : other ∈ (table.without displaced).rows)
    (agrees : row.agrees other columns = true) :
    some other.id = own := by
  rcases List.mem_filter.mp member with ⟨isRow, isKept⟩
  by_contra apart
  rcases exists_distinctObjection? resolution isRow agrees apart with
    ⟨objection, objects, isRival⟩
  have isDisplaced : other.id ∈ displaced := by
    rw [(displaced_of_accepted accepted).2]
    refine List.mem_flatMap.mpr ⟨objection, ?_, isRival⟩
    simp only [objections, List.mem_append, List.mem_filterMap]
    exact .inr ⟨_, isRule, objects⟩
  simp [isDisplaced] at isKept

/-- A row that is taken keeps the rules with those that stay beside it. -/
theorem of_accepted
    (lawful : table.IsLawful)
    {displaced : List Int64}
    (accepted : table.verdict own row = .accepted displaced)
    {rows : List Row}
    (areKept :
      ∀ other ∈ rows,
        other = row ∨ other ∈ (table.without displaced).rows ∧ some other.id ≠ own) :
    ({ table with rows := rows } : Table).IsLawful := by
  constructor
  · intro column resolution isRule other member
    rcases areKept other member with rfl | ⟨isKept, _⟩
    · exact present_of_accepted accepted isRule
    · exact lawful.present column resolution isRule other (List.mem_of_mem_filter isKept)
  · intro columns resolution isRule one isOne other isOther agrees
    rcases areKept one isOne with rfl | ⟨oneKept, oneApart⟩ <;>
      rcases areKept other isOther with rfl | ⟨otherKept, otherApart⟩
    · rfl
    · exact absurd (apart_of_accepted accepted isRule otherKept agrees) otherApart
    · have agreesToo := Row.agrees_comm agrees
      exact absurd (apart_of_accepted accepted isRule oneKept agreesToo) oneApart
    · exact
        lawful.distinct columns resolution isRule one (List.mem_of_mem_filter oneKept) other
          (List.mem_of_mem_filter otherKept) agrees

theorem filter (lawful : table.IsLawful) (keep : Row → Bool) :
    ({ table with rows := table.rows.filter keep } : Table).IsLawful := by
  constructor
  · intro column resolution isRule row member
    exact lawful.present column resolution isRule row (List.mem_of_mem_filter member)
  · intro columns resolution isRule row isRow other isOther
    exact
      lawful.distinct columns resolution isRule row (List.mem_of_mem_filter isRow) other
        (List.mem_of_mem_filter isOther)

end IsLawful

/-! ## Tables with lawful rows -/

/-- A table with fields for its columns, whose rows hold stored values and break no rules. -/
structure Carries (table : Table) (fields : List String) : Prop where
  columns : table.columns = fields
  own : table.isFixed = false
  noKey : table.key = none
  ascending : Ascending table.rows
  full : ∀ row ∈ table.rows, row.cells.length = fields.length
  stored : ∀ row ∈ table.rows, ∀ cell ∈ row.cells, cell.IsStored
  lawful : table.IsLawful

variable {fields : List String}

theorem Suits.carries (suits : table.Suits fields) : table.Carries fields :=
  ⟨suits.columns, suits.own, suits.noKey, suits.ascending, suits.full, suits.stored,
    isLawful_of_noRules suits.noRules⟩

namespace Carries

theorem filter
    (carries : table.Carries fields)
    (keep : Row → Bool) :
    ({ table with rows := table.rows.filter keep } : Table).Carries fields := by
  refine ⟨carries.columns, carries.own, carries.noKey, carries.ascending.filter keep, ?_, ?_,
    carries.lawful.filter keep⟩
  · intro row member
    exact carries.full row (List.mem_of_mem_filter member)
  · intro row member
    exact carries.stored row (List.mem_of_mem_filter member)

/-- A row that is taken joins those that stay beside it. -/
theorem of_accepted
    (carries : table.Carries fields)
    {displaced : List Int64}
    (accepted : table.verdict own row = .accepted displaced)
    (full : row.cells.length = fields.length)
    (stored : ∀ cell ∈ row.cells, cell.IsStored)
    {rows : List Row}
    (ascending : Ascending rows)
    (areKept :
      ∀ other ∈ rows,
        other = row ∨ other ∈ (table.without displaced).rows ∧ some other.id ≠ own) :
    ({ table with rows := rows } : Table).Carries fields := by
  refine ⟨carries.columns, carries.own, carries.noKey, ascending, ?_, ?_,
    carries.lawful.of_accepted accepted areKept⟩
  · intro other member
    rcases areKept other member with rfl | ⟨isKept, _⟩
    · exact full
    · exact carries.full other (List.mem_of_mem_filter isKept)
  · intro other member
    rcases areKept other member with rfl | ⟨isKept, _⟩
    · exact stored
    · exact carries.stored other (List.mem_of_mem_filter isKept)

end Carries

end Table

namespace Database

variable {database : Database} {name : String} {table : Table} {fields : List String}
variable {assignments : List (String × Value)}

theorem mem_changeRow
    {id : Int64}
    {row other : Row}
    (member : other ∈ (changeRow table id row).rows) :
    other = row ∨ other ∈ table.rows ∧ some other.id ≠ some id := by
  rw [changeRow] at member
  split at member
  · rcases List.mem_map.mp member with ⟨known, isKnown, rfl⟩
    split
    · exact .inl rfl
    · next apart => exact .inr ⟨isKnown, by simpa using apart⟩
  · rcases Table.mem_insertRow.mp member with isRow | isKept
    · exact .inl isRow
    · rcases List.mem_filter.mp isKept with ⟨isKnown, apart⟩
      exact .inr ⟨isKnown, by simpa using apart⟩

/-- Overwriting a row leaves a table with lawful rows. -/
theorem Overwrites.carries
    {cells : List (Nat × Cell)}
    {row : Row}
    {result : Bool × Table}
    (overwrites : Overwrites table cells row result)
    (areStored : ∀ entry ∈ cells, entry.2.IsStored)
    (full : row.cells.length = fields.length)
    (stored : ∀ cell ∈ row.cells, cell.IsStored)
    (carries : table.Carries fields) :
    result.2.Carries fields := by
  have ascending := overwrites.ascending carries.ascending
  cases overwrites with
  | left => exact carries
  | @replaced id displaced isId accepted =>
      have sameButRows := sameButRows_changeRow (table.without displaced) row.id
        (table.numbered { row.overwrite cells with id := id })
      dsimp only at ascending ⊢
      rw [Table.SameButRows] at sameButRows
      rw [sameButRows]
      refine carries.of_accepted accepted ?_ ?_ ascending fun other member => mem_changeRow member
      · rw [length_numbered]
        exact (Row.length_overwrite row cells).trans full
      · intro cell isCell
        rw [Table.numbered_of_noKey carries.noKey] at isCell
        rcases Row.mem_overwrite isCell with kept | isNew
        · exact stored cell kept
        · rcases List.mem_map.mp isNew with ⟨entry, isEntry, rfl⟩
          exact areStored entry isEntry

end Database

namespace Table.Carries

variable {database : Database} {name : String} {table : Table} {fields : List String}
variable {assignments : List (String × Value)}

/-- A new row is taken into a table with lawful rows, or left out. -/
theorem of_insertCells
    (carries : table.Carries fields)
    (isOwn : database.getOwnTable name = .ok table)
    (areFields : AreFields fields)
    (fits : Database.Fits fields assignments)
    {effect : Database.Effect}
    (inserts :
      database.insertCells name
          (assignments.map fun entry => (entry.1, Cell.ofValue entry.2)) =
        .ok effect) :
    effect.database = database ∨
      ∃ changed : Table, effect.database = database.replaceTable changed ∧
        changed.name = table.name ∧ changed.Carries fields := by
  have columns := carries.columns
  subst columns
  rcases Database.exists_own_of_insertCells inserts with
    ⟨known, resolved, id, isKnown, resolves, _, rfl | ⟨displaced, accepted, rfl⟩⟩
  · exact .inl rfl
  cases isKnown.symm.trans isOwn
  rw [Database.resolveRow_eq areFields carries.noKey fits.known_map] at resolves
  cases resolves
  have areCells := Database.newCells_placed areFields fits
  refine .inr ⟨_, rfl, rfl, carries.of_accepted accepted ?_ ?_ ?_ ?_⟩
  · rw [Database.length_numbered, areCells]
    exact List.length_map _
  · intro cell isCell
    rw [numbered_of_noKey carries.noKey, areCells] at isCell
    rcases List.mem_map.mp isCell with ⟨column, _, rfl⟩
    exact Cell.isStored_ofValue _
  · apply (carries.ascending.filter _).insertRow
    intro other member sameId
    exact Option.some_ne_none _ (apart_of_accepted accepted member sameId)
  · intro other member
    rcases mem_insertRow.mp member with isRow | isKept
    · exact .inl isRow
    · exact .inr ⟨isKept, Option.some_ne_none _⟩

/-- Overwriting rows leaves a table with lawful rows. -/
theorem of_update
    (carries : table.Carries fields)
    (isOwn : database.getOwnTable name = .ok table)
    (areFields : AreFields fields)
    (fits : Database.Fits fields assignments)
    {condition : Condition Value}
    {effect : Database.Effect}
    (updates : database.update name assignments condition = .ok effect) :
    ∃ changed : Table, effect.database = database.replaceTable changed ∧
      changed.name = table.name ∧ changed.Carries fields := by
  rcases Database.exists_own_of_update updates with
    ⟨known, cells, after, isKnown, resolves, runs, isAfter⟩
  cases isKnown.symm.trans isOwn
  have columns := carries.columns
  subst columns
  rw [Database.resolveAssignments_eq areFields fits.known] at resolves
  cases resolves
  have same := Database.sameButRows_of_updateRows runs
  refine ⟨after, isAfter, ?_, ?_⟩
  · rw [same]
  · refine
      Database.updateRows_induction (motive := fun changed => changed.Carries table.columns) ?_
        runs carries
    intro changed result row isMet overwrites
    have isRow : row ∈ table.rows := ((table.mem_matching _ row).mp isMet).1
    refine overwrites.carries ?_ (carries.full row isRow) (carries.stored row isRow)
    intro entry isEntry
    simp only [placed, List.map_map, List.mem_map, Function.comp_apply] at isEntry
    rcases isEntry with ⟨given, _, rfl⟩
    exact Cell.isStored_ofValue given.2

/-- A row that is overwritten with its own cells stays as it is, and so do all others. -/
theorem update_self
    (carries : table.Carries fields)
    (isOwn : database.getOwnTable name = .ok table)
    (areFields : AreFields fields)
    (fits : Database.Fits fields assignments)
    {row : Row}
    (member : row ∈ table.rows)
    (same :
      row.overwrite
          (table.placed (assignments.map fun entry => (entry.1, Cell.ofValue entry.2))) =
        row) :
    database.update name assignments (Condition.ofId row.id) =
      .ok ⟨1, none, database.replaceTable table⟩ := by
  have columns := carries.columns
  subst columns
  have named := source?_rowIdName areFields
  have shallow : Database.checkDepth (some (Condition.ofId row.id)) = .ok () := rfl
  have known :
      (Condition.ofId row.id).columns.find? (fun column => (table.source? column).isNone) =
        none := by
    simp [Condition.ofId, Condition.columns, named]
  have isThere := row?_of_mem carries.ascending member
  have unchanged : Database.changeRow table row.id row = table := by
    have each : ∀ other ∈ table.rows, (if other.id == row.id then row else other) = other := by
      intro other isOther
      split
      · next sameId =>
          exact
            (List.inj_on_of_nodup_map carries.ascending.ids_nodup isOther member
              (eq_of_beq sameId)).symm
      · rfl
    rw [Database.changeRow, if_pos rfl, List.map_congr_left each, List.map_id']
  have overwritten :
      Database.updateRow table
          (table.placed (assignments.map fun entry => (entry.1, Cell.ofValue entry.2))) row =
        .ok (true, table) := by
    simp only [Database.updateRow, isThere, Option.isNone_some, Bool.false_eq_true, if_false,
      Database.assignedId_of_noKey carries.noKey, Outcome.ok_bind, same,
      numbered_of_noKey carries.noKey, carries.lawful.verdict_self member, without_nil, unchanged]
  rw [Database.update, shallow, Outcome.ok_bind, isOwn, Outcome.ok_bind,
    Database.resolveAssignments_eq areFields fits.known, Outcome.ok_bind, known,
    matching_ofId named carries.ascending, isThere, Option.toList_some, Database.updateRows,
    overwritten]
  rfl

end Table.Carries

end RecordStore
