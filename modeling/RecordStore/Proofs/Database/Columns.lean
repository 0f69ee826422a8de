import RecordStore.Proofs.Database.Rows
import RecordStore.Proofs.Database.Statement
import RecordStore.Proofs.Record.Row
import RecordStore.Proofs.Restriction
import RecordStore.Proofs.Schema

/-!
# Columns for fields

A table that is created for a schema has the fields of the schema as its
columns.  They are identifiers that differ in more than letter case, and none
of them stands for the row id, so that each name finds its own column and the
name of the row id finds the id.

Main statements: `AreFields.columnIndex?_eq`, `Table.newCells_fields` and
`Row.overwrite_fields`.
-/

namespace RecordStore

/-- Names that the columns of a table can have when it is created for a schema. -/
structure AreFields (names : List String) : Prop where
  areIdentifiers : ∀ name ∈ names, Identifier.check name = .ok ()
  noIdentity : ∀ name ∈ names, Field.isRowIdAlias name = false
  distinct : names.Pairwise fun earlier later => Text.sameName earlier later = false
  few : names.length ≤ Database.maximalColumns

namespace Database

theorem checkColumns_eq_ok_iff
    (table : String)
    {known : List String}
    (within : known.length ≤ maximalColumns)
    (names : List String) :
    checkColumns table known names = .ok () ↔
      known.length + names.length ≤ maximalColumns ∧
        names.Pairwise (fun earlier later => Text.sameName earlier later = false) ∧
        ∀ name ∈ names, ∀ other ∈ known, Text.sameName name other = false := by
  induction names generalizing known with
  | nil => simp [checkColumns, within]
  | cons first rest induction =>
      rw [checkColumns]
      split
      case isTrue crowded =>
        simp only [reduceCtorEq, false_iff, List.length_cons]
        omega
      case isFalse spacious =>
        split
        case isTrue taken =>
          rcases List.any_eq_true.mp taken with ⟨other, member, same⟩
          simp only [reduceCtorEq, false_iff]
          rintro ⟨-, -, differ⟩
          rw [differ first List.mem_cons_self other member] at same
          contradiction
        case isFalse free =>
          have firstFree : ∀ other ∈ known, Text.sameName first other = false := by
            simpa using free
          have withinNext : (known ++ [first]).length ≤ maximalColumns := by
            rw [List.length_append, List.length_singleton]
            omega
          rw [induction withinNext]
          simp only [List.length_append, List.length_cons, List.length_nil, List.pairwise_cons,
            List.mem_append, List.mem_singleton, List.forall_mem_cons]
          constructor
          · rintro ⟨few, distinct, differ⟩
            refine ⟨by omega, ⟨?_, distinct⟩, firstFree, ?_⟩
            · intro later member
              rw [Text.sameName_comm]
              exact differ later member first (.inr rfl)
            · intro name member other isKnown
              exact differ name member other (.inl isKnown)
          · rintro ⟨few, ⟨firstDiffers, distinct⟩, -, differ⟩
            refine ⟨by omega, distinct, ?_⟩
            rintro name member other (isKnown | rfl)
            · exact differ name member other isKnown
            · rw [Text.sameName_comm]
              exact firstDiffers name member

end Database

namespace AreFields

/-- The fields of a schema whose columns a new table accepts. -/
theorem of_schema
    {names : List String}
    {schema : Schema}
    (accepted : Schema.ofNames names = .ok schema)
    {table : String}
    (checked : Database.checkColumns table [] schema.fields = .ok ()) :
    AreFields schema.fields := by
  rcases
      (Database.checkColumns_eq_ok_iff table (Nat.zero_le _) schema.fields).mp checked with
    ⟨few, distinct, _⟩
  constructor
  · exact (Schema.areNew accepted).areIdentifiers
  · exact (Schema.areNew accepted).noAlias
  · exact distinct
  · simpa using few

variable {names : List String}

theorem nodup (areFields : AreFields names) : names.Nodup := by
  apply areFields.distinct.imp
  intro earlier later differ same
  rw [same, Text.sameName_self] at differ
  contradiction

theorem sameName_rowIdName (areFields : AreFields names) :
    ∀ name ∈ names, Text.sameName name Field.rowIdName = false := by
  intro name member
  have noAlias := areFields.noIdentity name member
  simp only [Field.isRowIdAlias, Field.rowIdAliases, List.any_cons, Bool.or_eq_false_iff] at noAlias
  exact noAlias.1

theorem marks_eq_zero
    (areFields : AreFields names)
    {name : String}
    (member : name ∈ names) :
    Sql.marks name = 0 := by
  have wellFormed : (Field.column name).WellFormed := areFields.areIdentifiers name member
  exact (Field.isColumn_sqlName wellFormed).count_placeholder

theorem findIdx?_sameName
    {names : List String}
    (distinct : names.Pairwise fun earlier later => Text.sameName earlier later = false)
    {name : String}
    (member : name ∈ names) :
    names.findIdx? (Text.sameName name) = some (names.idxOf name) := by
  induction names with
  | nil => contradiction
  | cons first rest induction =>
      rcases List.pairwise_cons.mp distinct with ⟨firstDiffers, restDistinct⟩
      by_cases same : first = name
      · simp [List.findIdx?_cons, same]
      · have inRest : name ∈ rest := by
          rcases List.mem_cons.mp member with isFirst | inRest
          · exact absurd isFirst.symm same
          · exact inRest
        have differ : Text.sameName name first = false := by
          rw [Text.sameName_comm]
          exact firstDiffers name inRest
        rw [List.findIdx?_cons, differ, induction restDistinct inRest, List.idxOf_cons_ne _ same]
        rfl

end AreFields

/-! ## Names in a table -/

namespace Table

variable {table : Table}

theorem columnIndex?_eq
    (areFields : AreFields table.columns)
    {name : String}
    (member : name ∈ table.columns) :
    table.columnIndex? name = some (table.columns.idxOf name) :=
  AreFields.findIdx?_sameName areFields.distinct member

theorem columnIndex?_rowIdName (areFields : AreFields table.columns) :
    table.columnIndex? Field.rowIdName = none := by
  apply List.findIdx?_eq_none_iff.mpr
  intro name member
  rw [Text.sameName_comm]
  exact areFields.sameName_rowIdName name member

theorem source?_rowIdName (areFields : AreFields table.columns) :
    table.source? Field.rowIdName = some .identity := by
  rw [source?, columnIndex?_rowIdName areFields]
  rfl

theorem identityColumn_eq (areFields : AreFields table.columns) (noKey : table.key = none) :
    Database.identityColumn table = Field.rowIdName := by
  rw [Database.identityColumn, columnIndex?_rowIdName areFields, noKey]

theorem identitySource_eq (areFields : AreFields table.columns) :
    Database.identitySource table = .identity := by
  rw [Database.identitySource, source?_rowIdName areFields]
  rfl

end Table

/-! ## Cells for columns -/

/-- Cells with the columns that they are for, by the places of the columns. -/
def Table.placed (table : Table) (given : List (String × Cell)) : List (Nat × Cell) :=
  given.map fun entry => (table.columns.idxOf entry.1, entry.2)

namespace Table

variable {table : Table}

theorem find?_placed
    (areFields : AreFields table.columns)
    {given : List (String × Cell)}
    (known : ∀ entry ∈ given, entry.1 ∈ table.columns)
    {index : Nat}
    (within : index < table.columns.length) :
    ((table.placed given).find? fun entry => entry.1 == index).map Prod.snd =
      Json.member? table.columns[index] given := by
  induction given with
  | nil => rfl
  | cons entry rest induction =>
      rcases entry with ⟨name, cell⟩
      have restSame :=
        induction fun other member => known other (List.mem_cons_of_mem (name, cell) member)
      have isColumn : name ∈ table.columns := known (name, cell) List.mem_cons_self
      by_cases same : name = table.columns[index]
      · have samePlace : table.columns.idxOf name = index := by
          rw [same]
          exact areFields.nodup.idxOf_getElem index within
        simp [placed, Json.member?, ← same, samePlace]
      · have otherPlace : table.columns.idxOf name ≠ index := by
          rintro rfl
          exact same (List.getElem_idxOf (List.idxOf_lt_length_iff.mpr isColumn)).symm
        rw [Json.member?, if_neg same, ← restSame]
        simp [placed, otherPlace]

theorem newCells_fields
    (areFields : AreFields table.columns)
    {given : List (String × Cell)}
    (known : ∀ entry ∈ given, entry.1 ∈ table.columns) :
    table.newCells ((table.placed given).map fun entry => (.column entry.1, entry.2)) =
      table.columns.map fun name => (Json.member? name given).getD .null := by
  apply List.ext_getElem
  · simp [newCells]
  · intro index within _
    have isColumn : index < table.columns.length := by simpa [newCells] using within
    simp only [newCells, List.getElem_map, List.getElem_range]
    have sameTest (place : Nat) : (Source.column place == .column index) = (place == index) := by
      rw [Bool.eq_iff_iff, beq_iff_eq, beq_iff_eq, Source.column.injEq]
    rw [← find?_placed areFields known isColumn, List.find?_map, Option.map_map]
    simp only [Function.comp_def, sameTest]

end Table

/-- Cells that are set one after the other, each in a place of its own. -/
theorem getElem?_foldl_set
    {assigned : List (Nat × Cell)}
    (apart : (assigned.map Prod.fst).Nodup)
    (cells : List Cell)
    (index : Nat) :
    (assigned.foldl (fun cells entry => cells.set entry.1 entry.2) cells)[index]? =
      cells[index]?.map fun old =>
        ((assigned.find? fun entry => entry.1 == index).map Prod.snd).getD old := by
  induction assigned generalizing cells with
  | nil => simp
  | cons entry rest induction =>
      rcases entry with ⟨place, cell⟩
      rcases List.nodup_cons.mp apart with ⟨notLater, restApart⟩
      rw [List.foldl_cons, induction restApart, List.getElem?_set]
      by_cases same : place = index
      · have notInRest : rest.find? (fun entry => entry.1 == index) = none := by
          apply List.find?_eq_none.mpr
          intro other member isSame
          exact notLater (same ▸ List.mem_map.mpr ⟨other, member, eq_of_beq isSame⟩)
        by_cases within : index < cells.length
        · simp [same, notInRest, within]
        · simp [same, within]
      · simp [same]

namespace Row

theorem length_overwrite (row : Row) (assigned : List (Nat × Cell)) :
    (row.overwrite assigned).cells.length = row.cells.length := by
  show (assigned.foldl _ row.cells).length = _
  induction assigned generalizing row with
  | nil => rfl
  | cons entry rest induction =>
      rw [List.foldl_cons, induction { row with cells := row.cells.set entry.1 entry.2 }]
      exact List.length_set

/-- The cells of an overwritten row were there before or have been assigned. -/
theorem mem_overwrite
    {row : Row}
    {assigned : List (Nat × Cell)}
    {cell : Cell}
    (member : cell ∈ (row.overwrite assigned).cells) :
    cell ∈ row.cells ∨ cell ∈ assigned.map Prod.snd := by
  induction assigned generalizing row with
  | nil => exact .inl member
  | cons entry rest induction =>
      have step : cell ∈ row.cells.set entry.1 entry.2 ∨ cell ∈ rest.map Prod.snd :=
        @induction { row with cells := row.cells.set entry.1 entry.2 } member
      rcases step with isSet | later
      · rcases List.mem_or_eq_of_mem_set isSet with kept | isNew
        · exact .inl kept
        · exact .inr (isNew ▸ List.mem_cons_self)
      · exact .inr (List.mem_cons_of_mem entry.2 later)

/-- Overwriting sets each column that is named, and no other. -/
theorem overwrite_fields
    {table : Table}
    (areFields : AreFields table.columns)
    {given : List (String × Cell)}
    (known : ∀ entry ∈ given, entry.1 ∈ table.columns)
    (apart : (given.map Prod.fst).Nodup)
    {row : Row}
    (full : row.cells.length = table.columns.length) :
    table.columns.zip (row.overwrite (table.placed given)).cells =
      (table.columns.zip row.cells).map fun entry =>
        (entry.1, (Json.member? entry.1 given).getD entry.2) := by
  have placesApart : ((table.placed given).map Prod.fst).Nodup := by
    have places :
        (table.placed given).map Prod.fst =
          (given.map Prod.fst).map fun name => table.columns.idxOf name := by
      simp [Table.placed]
    rw [places]
    apply List.Nodup.map_on ?_ apart
    intro name member other _ same
    rcases List.mem_map.mp member with ⟨entry, isGiven, rfl⟩
    exact (List.idxOf_inj (known entry isGiven)).mp same
  apply List.ext_getElem?
  intro index
  simp only [List.zip, List.getElem?_map, List.getElem?_zipWith', Row.overwrite,
    getElem?_foldl_set placesApart]
  by_cases within : index < table.columns.length
  · have hasCell : index < row.cells.length := full ▸ within
    simp [within, hasCell, Table.find?_placed areFields known within]
  · simp [List.getElem?_eq_none_iff.mpr (Nat.not_lt.mp within)]

end Row

end RecordStore
