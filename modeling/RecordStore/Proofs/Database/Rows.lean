import Mathlib.Data.List.Nodup
import RecordStore.Database.Basic

/-!
# Rows by their ids

The rows of a table ascend by their ids, so that an id stands for at most one
row.  A new row comes under an id that is free, is found under it, and leaves
the rows under all other ids where they were.
-/

namespace RecordStore

namespace Table

/-- The rows ascend by their ids. -/
def Ascending (rows : List Row) : Prop :=
  rows.Pairwise fun earlier later => earlier.id < later.id

theorem Ascending.ids_nodup
    {rows : List Row}
    (ascending : Ascending rows) :
    (rows.map Row.id).Nodup := by
  apply List.pairwise_map.mpr
  apply ascending.imp
  intro earlier later less equal
  exact Int64.lt_irrefl (equal ▸ less)

theorem Ascending.filter
    {rows : List Row}
    (ascending : Ascending rows)
    (keep : Row → Bool) :
    Ascending (rows.filter keep) :=
  List.Pairwise.filter keep ascending

/-- Rows that keep their ids keep their order. -/
theorem Ascending.map
    {rows : List Row}
    (ascending : Ascending rows)
    {change : Row → Row}
    (sameId : ∀ row, (change row).id = row.id) :
    Ascending (rows.map change) := by
  apply List.pairwise_map.mpr
  apply ascending.imp
  intro earlier later less
  rw [sameId, sameId]
  exact less

/-! ## Finding rows -/

theorem row?_eq_none_iff (table : Table) (id : Int64) :
    table.row? id = none ↔ ∀ row ∈ table.rows, row.id ≠ id := by
  simp [row?]

theorem mem_of_row?
    {table : Table}
    {id : Int64}
    {row : Row}
    (found : table.row? id = some row) :
    row ∈ table.rows ∧ row.id = id :=
  ⟨List.mem_of_find?_eq_some found, by simpa using List.find?_some found⟩

/-- Among ascending rows a row is the one with its id. -/
theorem row?_of_mem
    {table : Table}
    (ascending : Ascending table.rows)
    {row : Row}
    (member : row ∈ table.rows) :
    table.row? row.id = some row := by
  cases found : table.row? row.id with
  | none => exact absurd rfl ((row?_eq_none_iff table row.id).mp found row member)
  | some other =>
      rcases mem_of_row? found with ⟨otherMember, sameId⟩
      rw [List.inj_on_of_nodup_map ascending.ids_nodup otherMember member sameId]

/-- Under an id there is one row or none. -/
theorem Ascending.filter_id
    {rows : List Row}
    (ascending : Ascending rows)
    (id : Int64) :
    rows.filter (fun row => row.id == id) = (rows.find? fun row => row.id == id).toList := by
  induction rows with
  | nil => rfl
  | cons first rest induction =>
      rcases List.pairwise_cons.mp ascending with ⟨below, restAscending⟩
      by_cases same : first.id = id
      · have noMore : rest.filter (fun row => row.id == id) = [] := by
          apply List.filter_eq_nil_iff.mpr
          intro row member isSame
          have less := below row member
          rw [same, eq_of_beq isSame] at less
          exact Int64.lt_irrefl less
        simp [same, noMore]
      · simp [same, induction restAscending]

/-! ## New rows -/

theorem mem_insertRow {row other : Row} {rows : List Row} :
    other ∈ insertRow row rows ↔ other = row ∨ other ∈ rows := by
  induction rows with
  | nil => simp [insertRow]
  | cons first rest induction =>
      rw [insertRow]
      split
      · exact List.mem_cons
      · rw [List.mem_cons, induction, List.mem_cons]
        exact or_left_comm

/-- A row with a free id comes where its id belongs. -/
theorem Ascending.insertRow
    {rows : List Row}
    (ascending : Ascending rows)
    {row : Row}
    (isFree : ∀ other ∈ rows, other.id ≠ row.id) :
    Ascending (insertRow row rows) := by
  induction rows with
  | nil => exact List.pairwise_singleton _ row
  | cons first rest induction =>
      rcases List.pairwise_cons.mp ascending with ⟨below, restAscending⟩
      rw [Table.insertRow]
      split
      case isTrue less =>
        refine List.pairwise_cons.mpr ⟨?_, ascending⟩
        intro later member
        rcases List.mem_cons.mp member with rfl | inRest
        · exact less
        · exact Int64.lt_trans less (below later inRest)
      case isFalse notLess =>
        refine List.pairwise_cons.mpr ⟨?_, induction restAscending ?_⟩
        · intro later member
          rcases mem_insertRow.mp member with rfl | inRest
          · exact
              Int64.lt_of_le_of_ne (Int64.not_lt.mp notLess)
                (isFree first List.mem_cons_self)
          · exact below later inRest
        · intro other member
          exact isFree other (List.mem_cons_of_mem first member)

/-- A row that was inserted is found under its id, and the others under theirs. -/
theorem find?_insertRow
    {row : Row}
    {rows : List Row}
    (isFree : ∀ other ∈ rows, other.id ≠ row.id)
    (id : Int64) :
    (insertRow row rows).find? (fun known => known.id == id) =
      if id = row.id then some row else rows.find? fun known => known.id == id := by
  induction rows with
  | nil =>
      by_cases same : id = row.id
      · simp [insertRow, same]
      · simp [insertRow, same, Ne.symm same]
  | cons first rest induction =>
      have restFree : ∀ other ∈ rest, other.id ≠ row.id := by
        intro other member
        exact isFree other (List.mem_cons_of_mem first member)
      have firstFree : first.id ≠ row.id := isFree first List.mem_cons_self
      rw [insertRow]
      split
      · by_cases same : id = row.id
        · simp [same]
        · simp [same, Ne.symm same]
      · rw [List.find?_cons, List.find?_cons, induction restFree]
        by_cases same : id = row.id
        · simp [same, beq_eq_false_iff_ne.mpr firstFree]
        · simp [same]

/-! ## New ids -/

theorem Ascending.le_getLast
    {rows : List Row}
    (ascending : Ascending rows)
    {last : Row}
    (isLast : rows.getLast? = some last)
    {row : Row}
    (member : row ∈ rows) :
    row.id ≤ last.id := by
  rcases List.getLast?_eq_some_iff.mp isLast with ⟨before, rfl⟩
  rcases List.mem_append.mp member with inBefore | isSame
  · have pairs := (List.pairwise_append.mp ascending).2.2
    exact Int64.le_of_lt (pairs row inBefore last List.mem_cons_self)
  · rw [List.mem_singleton.mp isSame]
    exact Int64.le_refl _

theorem lt_add_one_of_lt_maxValue
    {id : Int64}
    (below : id < Int64.maxValue) :
    id < id + 1 := by
  have less : id.toInt < Int64.maxValue.toInt := Int64.lt_iff_toInt_lt.mp below
  have greatest : Int64.maxValue.toInt = 2 ^ 63 - 1 := by decide
  have least : -2 ^ 63 ≤ id.toInt := Int64.le_toInt id
  have one : (1 : Int64).toInt = 1 := by decide
  apply Int64.lt_iff_toInt_lt.mpr
  rw [Int64.toInt_add, one, Int.bmod_eq_of_le] <;> omega

end Table

namespace Database

/-- An id that is given to a new row is free. -/
theorem row?_of_freshId
    {table : Table}
    {id : Int64}
    (given : freshId table = .ok id) :
    table.row? id = none := by
  unfold freshId at given
  split at given
  · contradiction
  · split at given
    · contradiction
    · next candidate isNext isFree =>
        cases given
        simpa using isFree

/-- Above positive ids, the id of a new row is positive. -/
theorem freshId_pos
    {table : Table}
    (arePositive : ∀ row ∈ table.rows, 0 < row.id)
    {id : Int64}
    (given : freshId table = .ok id) :
    0 < id := by
  have isNext : table.nextId? = some id := by
    unfold freshId at given
    split at given
    · contradiction
    · next candidate isNext =>
        split at given
        · contradiction
        · cases given
          exact isNext
  rw [Table.nextId?] at isNext
  split at isNext
  · cases isNext
    decide
  · next last isLast =>
      have lastPositive := arePositive last (List.mem_of_getLast? isLast)
      split at isNext
      · dsimp only at isNext
        split at isNext
        · next isPositive =>
            cases isNext
            exact isPositive
        · contradiction
      · next notGreatest =>
          cases isNext
          have below : last.id < Int64.maxValue :=
            Int64.lt_of_le_of_ne (Int64.le_maxValue last.id) notGreatest
          exact Int64.lt_trans lastPositive (Table.lt_add_one_of_lt_maxValue below)

/-- As long as the greatest word is no id, there is an id for a new row. -/
theorem exists_freshId
    {table : Table}
    (ascending : Table.Ascending table.rows)
    (room : ∀ row ∈ table.rows, row.id < Int64.maxValue) :
    ∃ id, freshId table = .ok id := by
  cases isLast : table.rows.getLast? with
  | none =>
      have empty : table.rows = [] := List.getLast?_eq_none_iff.mp isLast
      exact ⟨1, by simp [freshId, Table.nextId?, Table.row?, empty]⟩
  | some last =>
      have lastMember : last ∈ table.rows := List.mem_of_getLast? isLast
      have lastBelow := room last lastMember
      refine ⟨last.id + 1, ?_⟩
      have isFree : table.row? (last.id + 1) = none := by
        apply (Table.row?_eq_none_iff table _).mpr
        intro row member same
        have atMost := ascending.le_getLast isLast member
        rw [same] at atMost
        exact Int64.not_lt.mpr atMost (Table.lt_add_one_of_lt_maxValue lastBelow)
      have notGreatest : last.id ≠ Int64.maxValue := by
        intro same
        exact Int64.lt_irrefl (same ▸ lastBelow)
      simp [freshId, Table.nextId?, isLast, notGreatest, isFree]

end Database

end RecordStore
