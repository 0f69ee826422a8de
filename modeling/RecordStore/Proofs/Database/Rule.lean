import RecordStore.Database.Rule
import RecordStore.Proofs.Database.Rows

/-!
# What rules leave of a table

A row that a table takes comes under an id that no other row has by then: either
nobody had it, or the row that had it went.  Rows go only for rules that say so.
A table without any rules takes each row whose id is free.

Main statements: `Table.apart_of_accepted`, `Table.displaced_eq_nil` and
`Table.verdict_of_noRules`.
-/

namespace RecordStore

namespace Table

variable {table : Table} {own : Option Int64} {row : Row}

@[simp]
theorem without_nil (table : Table) : table.without [] = table := by
  have kept : (table.rows.filter fun row => !List.contains [] row.id) = table.rows :=
    List.filter_eq_self.mpr fun _ _ => rfl
  rw [without, kept]

/-- Rules never make a row go that stands in the way of another one. -/
structure KeepsRivals (table : Table) : Prop where
  noKey : table.key = none
  noReplacement : ∀ columns, .distinct columns .replace ∉ table.rules

theorem mem_rivals {isRival : Row → Bool} {id : Int64} :
    id ∈ table.rivals own isRival ↔
      ∃ other ∈ table.rows, other.id = id ∧ some id ≠ own ∧ isRival other = true := by
  simp only [rivals, List.mem_map, List.mem_filter, Bool.and_eq_true, bne_iff_ne]
  constructor
  · rintro ⟨other, ⟨member, apart, isRival⟩, rfl⟩
    exact ⟨other, member, rfl, apart, isRival⟩
  · rintro ⟨other, member, rfl, apart, isRival⟩
    exact ⟨other, ⟨member, apart, isRival⟩, rfl⟩

/-- Whoever has the id of a row is in its way, unless the row takes its place. -/
theorem exists_identityObjection?
    {other : Row}
    (member : other ∈ table.rows)
    (sameId : other.id = row.id)
    (apart : some other.id ≠ own) :
    ∃ objection, table.identityObjection? own row = some objection ∧
      other.id ∈ objection.rivals := by
  have isRival : other.id ∈ table.rivals own fun other => other.id == row.id :=
    mem_rivals.mpr ⟨other, member, rfl, apart, by simpa using sameId⟩
  rw [identityObjection?]
  split
  · next isNil =>
      rw [isNil] at isRival
      contradiction
  · next rivals _ =>
      refine ⟨_, rfl, ?_⟩
      cases table.key <;> exact isRival

/-- What a row that is taken displaces has been objected with. -/
theorem displaced_of_accepted
    {displaced : List Int64}
    (accepted : table.verdict own row = .accepted displaced) :
    (∀ objection ∈ table.objections own row, objection.resolution = .replace) ∧
      displaced = (table.objections own row).flatMap Objection.rivals := by
  rw [verdict] at accepted
  split at accepted
  · next undecided =>
      cases accepted
      exact ⟨by simpa using List.find?_eq_none.mp undecided, rfl⟩
  · split at accepted <;> contradiction

/-- A row that is taken comes under an id that nobody else has after that. -/
theorem apart_of_accepted
    {displaced : List Int64}
    (accepted : table.verdict own row = .accepted displaced)
    {other : Row}
    (member : other ∈ (table.without displaced).rows)
    (sameId : other.id = row.id) :
    some other.id = own := by
  rcases List.mem_filter.mp member with ⟨isRow, isKept⟩
  by_contra apart
  rcases exists_identityObjection? isRow sameId apart with ⟨objection, objects, isRival⟩
  have isDisplaced : other.id ∈ displaced := by
    rw [(displaced_of_accepted accepted).2]
    refine List.mem_flatMap.mpr ⟨objection, ?_, isRival⟩
    simp [objections, objects]
  simp [isDisplaced] at isKept

/-- A rule of the table leaves rows out that would break it. -/
inductive MayDrop (table : Table) : Prop where
  | present {column : Nat} (isRule : .present column .ignore ∈ table.rules)
  | distinct {columns : List Nat} (isRule : .distinct columns .ignore ∈ table.rules)
  | key {column : Nat} (isKey : table.key = some ⟨column, .ignore⟩)

theorem mayDrop_of_presenceObjection
    {rule : Rule}
    (isRule : rule ∈ table.rules)
    {objection : Objection}
    (objects : table.presenceObjection? row rule = some objection)
    (ignores : objection.resolution = .ignore) :
    table.MayDrop := by
  cases rule with
  | distinct => contradiction
  | present column resolution =>
      rw [presenceObjection?] at objects
      split at objects
      · cases objects
        dsimp only at ignores
        split at ignores
        · contradiction
        · exact .present (ignores ▸ isRule)
      · contradiction

theorem mayDrop_of_identityObjection
    {objection : Objection}
    (objects : table.identityObjection? own row = some objection)
    (ignores : objection.resolution = .ignore) :
    table.MayDrop := by
  rw [identityObjection?] at objects
  split at objects
  · contradiction
  · cases isKey : table.key with
    | none =>
        rw [isKey] at objects
        cases objects
        contradiction
    | some key =>
        rw [isKey] at objects
        cases objects
        rcases key with ⟨column, resolution⟩
        cases ignores
        exact .key isKey

theorem mayDrop_of_distinctObjection
    {rule : Rule}
    (isRule : rule ∈ table.rules)
    {objection : Objection}
    (objects : table.distinctObjection? own row rule = some objection)
    (ignores : objection.resolution = .ignore) :
    table.MayDrop := by
  cases rule with
  | present => contradiction
  | distinct columns resolution =>
      rw [distinctObjection?] at objects
      split at objects
      · contradiction
      · cases objects
        dsimp only at ignores
        exact .distinct (ignores ▸ isRule)

/-- A row is left out only for rules that say so. -/
theorem mayDrop_of_dropped (dropped : table.verdict own row = .dropped) : table.MayDrop := by
  rw [verdict] at dropped
  split at dropped
  · contradiction
  · next objection decides =>
      split at dropped
      · next ignores =>
          have member := List.mem_of_find?_eq_some decides
          simp only [objections, List.mem_append, List.mem_filterMap, Option.mem_toList] at member
          rcases member with (⟨rule, isRule, objects⟩ | objects) | ⟨rule, isRule, objects⟩
          · exact mayDrop_of_presenceObjection isRule objects ignores
          · exact mayDrop_of_identityObjection objects ignores
          · exact mayDrop_of_distinctObjection isRule objects ignores
      · contradiction

/-- Nothing is displaced where rules never make a row go. -/
theorem displaced_eq_nil
    (keeps : table.KeepsRivals)
    {displaced : List Int64}
    (accepted : table.verdict own row = .accepted displaced) :
    displaced = [] := by
  rcases displaced_of_accepted accepted with ⟨allReplace, rfl⟩
  have noObjection : table.objections own row = [] := by
    apply List.eq_nil_iff_forall_not_mem.mpr
    intro objection member
    have replaces := allReplace objection member
    simp only [objections, List.mem_append, List.mem_filterMap, Option.mem_toList] at member
    rcases member with (⟨rule, _, objects⟩ | objects) | ⟨rule, isRule, objects⟩
    · cases rule with
      | distinct => contradiction
      | present column resolution =>
          simp only [presenceObjection?] at objects
          split at objects
          · cases objects
            dsimp only at replaces
            split at replaces
            · contradiction
            · next keeps => exact keeps replaces
          · contradiction
    · rw [identityObjection?, keeps.noKey] at objects
      split at objects
      · contradiction
      · cases objects
        contradiction
    · cases rule with
      | present => contradiction
      | distinct columns resolution =>
          simp only [distinctObjection?] at objects
          split at objects
          · contradiction
          · cases objects
            dsimp only at replaces
            rw [replaces] at isRule
            exact keeps.noReplacement columns isRule
  rw [noObjection]
  rfl

/-- Without any rules a row is taken if its id is free, or its own. -/
theorem verdict_of_noRules
    (noRules : table.rules = [])
    (apart : ∀ other ∈ table.rows, other.id = row.id → some other.id = own) :
    table.verdict own row = .accepted [] := by
  have noRival : (table.rivals own fun other => other.id == row.id) = [] := by
    apply List.eq_nil_iff_forall_not_mem.mpr
    intro id member
    rcases mem_rivals.mp member with ⟨other, isRow, rfl, notOwn, sameId⟩
    exact notOwn (apart other isRow (by simpa using sameId))
  have noObjection : table.objections own row = [] := by
    simp [objections, noRules, identityObjection?, noRival]
  rw [verdict, noObjection]
  rfl

theorem numbered_of_noKey (noKey : table.key = none) (row : Row) : table.numbered row = row := by
  rw [numbered, noKey]

theorem columnSource_of_noKey (noKey : table.key = none) (index : Nat) :
    table.columnSource index = .column index := by
  rw [columnSource, noKey]
  rfl

end Table

end RecordStore
