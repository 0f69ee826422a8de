import RecordStore.Proofs.Criteria.Order
import RecordStore.Proofs.Database.Order
import RecordStore.Proofs.Storage.Selection

/-!
# Filters as sets

In a table that a storage created, every id is positive, so that no search
overlooks a row: what a filter reads are the rows of which its criteria hold.
Hence filters that are put together read the intersection or the union of what
they read, and the order of a filter makes no difference to which records are
read, counted or removed.  It makes none to the order of the records either, but
where one of several branches is to hold.

Main statement: `Session.filters_form_set_algebra`.
-/

namespace RecordStore

open Sql (Condition)

/-! ## Ids of a table that was created -/

/-- The ids of the rows are positive. -/
def Table.IsPositive (table : Table) : Prop :=
  ∀ row ∈ table.rows, 0 < row.id

namespace Storage.Ready

/-- No statement of a storage brings an id that is not positive. -/
theorem Becomes.isPositive
    {table changed : Table}
    (becomes : Becomes table changed)
    (isPositive : table.IsPositive) :
    changed.IsPositive := by
  cases becomes with
  | same => exact isPositive
  | removed condition =>
      intro row member
      exact isPositive row (List.mem_filter.mp member).1
  | updated record id =>
      intro row member
      rcases List.mem_map.mp member with ⟨known, isKnown, rfl⟩
      split
      · exact isPositive known isKnown
      · exact isPositive known isKnown
  | inserted record isFresh =>
      intro row member
      rcases Table.mem_insertRow.mp member with rfl | isKnown
      · exact Database.freshId_pos isPositive isFresh
      · exact isPositive row isKnown

end Storage.Ready

theorem Session.HasCreated.exists_ready_isPositive
    {session : Session}
    (created : session.HasCreated) :
    ∃ table, session.Ready table ∧ table.IsPositive :=
  created.exists_ready_and Table.IsPositive
    (fun _ _ _ member => absurd member List.not_mem_nil)
    fun _ _ becomes isPositive => becomes.isPositive isPositive

/-! ## Criteria of a table -/

namespace Table

/-- Criteria hold of a row. -/
def Satisfies (table : Table) (criteria : Criteria) (row : Row) : Prop :=
  Criteria.eval (table.interpretation row) criteria = .holds

/-- Whatever criteria test stands for something. -/
def Knows (table : Table) (criteria : Criteria) : Prop :=
  ∀ field ∈ Criteria.fields criteria, (table.source? (Field.sqlName field)).isSome = true

/-- An identity is that of a row of which criteria hold. -/
def Identifies (table : Table) (criteria : Criteria) (identity : Option Int64) : Prop :=
  ∃ row ∈ table.rows, identity = some row.id ∧ table.Satisfies criteria row

variable {table : Table} {filter : Filter} {criteria : Criteria} {restriction : Restriction}

/-- A table admits what is small and tests nothing that the table lacks. -/
theorem admits_iff
    {name : String}
    (plain : Sql.marks name = 0)
    (restricts : filter.restriction = .ok restriction)
    (restrictsCriteria : criteria.restriction = .ok restriction) :
    table.Admits name restriction.condition ↔ filter.IsSmall ∧ table.Knows criteria := by
  have sameMarks :
      Sql.marks name + Sql.Statement.conditionMarks restriction.condition =
        restriction.placeholderCount := by
    rw [plain, Nat.zero_add, Restriction.placeholderCount, Restriction.fragment]
    cases restriction.condition <;> rfl
  have isSmall :
      filter.IsSmall ↔
        (∀ condition ∈ restriction.condition, condition.height ≤ DatabaseFault.maximalDepth) ∧
          restriction.placeholderCount ≤ Database.maximalParameters := by
    constructor
    · intro small
      exact small restriction restricts
    · intro limits other restrictsToo
      cases restricts.symm.trans restrictsToo
      exact limits
  have knows :
      table.Knows criteria ↔
        ∀ condition ∈ restriction.condition, ∀ column ∈ condition.columns,
          (table.source? column).isSome = true := by
    cases isCondition : restriction.condition with
    | none =>
        rw [Knows, Criteria.fields_of_unrestricted restrictsCriteria isCondition]
        simp
    | some condition =>
        simp [Knows, Criteria.columns_of_restriction restrictsCriteria isCondition]
  rw [isSmall, knows, ← sameMarks]
  constructor
  · intro admits
    exact ⟨⟨admits.shallow, admits.few⟩, admits.named⟩
  · rintro ⟨⟨shallow, few⟩, named⟩
    exact ⟨shallow, few, named⟩

/-- What a restriction finds are the rows of which its criteria hold. -/
theorem finds_iff
    (isPositive : table.IsPositive)
    (wellFormed : Criteria.WellFormed criteria)
    (restricts : criteria.restriction = .ok restriction)
    {row : Row}
    (member : row ∈ table.rows) :
    table.finds restriction.condition row = true ↔ table.Satisfies criteria row := by
  have proper : row.id ≠ Int64.minValue := by
    intro least
    have positive := isPositive row member
    rw [least] at positive
    exact absurd positive (by decide)
  rw [finds_eq_selects proper]
  rcases Criteria.exists_restriction wellFormed with ⟨_, restrictsToo, unrestricted, represents⟩
  cases restricts.symm.trans restrictsToo
  cases isCondition : restriction.condition with
  | none =>
      cases unrestricted.mp isCondition
      exact iff_of_true rfl rfl
  | some condition =>
      rw [selects_iff, Fulfills, (represents condition isCondition).2]
      rfl

/-- Conditions that find the same rows are met by the same rows. -/
theorem matching_perm_of_finds
    {condition other : Option (Condition Value)}
    (same : ∀ row ∈ table.rows, table.finds other row = table.finds condition row) :
    (table.matching other).Perm (table.matching condition) := by
  have sameFiltered :
      table.rows.filter (table.finds other) = table.rows.filter (table.finds condition) :=
    List.filter_congr same
  exact (table.matching_perm other).trans (sameFiltered ▸ (table.matching_perm condition).symm)

theorem others_eq_of_finds
    {condition other : Option (Condition Value)}
    (same : ∀ row ∈ table.rows, table.finds other row = table.finds condition row) :
    table.others other = table.others condition := by
  rw [others_eq_filter, others_eq_filter]
  exact List.filter_congr fun row member => congrArg not (same row member)

/-! ## Criteria put together -/

section Together

variable {first second : Criteria}

theorem knows_append
    (knowsFirst : table.Knows first)
    (knowsSecond : table.Knows second)
    {together : Criteria}
    (fields : Criteria.fields together = Criteria.fields first ++ Criteria.fields second) :
    table.Knows together := by
  intro field member
  rw [fields] at member
  rcases List.mem_append.mp member with isFirst | isSecond
  · exact knowsFirst field isFirst
  · exact knowsSecond field isSecond

theorem satisfies_append (row : Row) :
    table.Satisfies (first ++ second) row ↔
      table.Satisfies first row ∧ table.Satisfies second row := by
  rw [Satisfies, Criteria.eval_append, Sql.Truth.and_eq_holds_iff]
  rfl

theorem satisfies_and (row : Row) :
    table.Satisfies [.group .and [first, second]] row ↔
      table.Satisfies first row ∧ table.Satisfies second row := by
  rw [Satisfies, Criteria.eval_pair, Junction.combine, Sql.Truth.all_eq_holds_iff]
  simp [Satisfies]

theorem satisfies_or (row : Row) :
    table.Satisfies [.group .or [first, second]] row ↔
      table.Satisfies first row ∨ table.Satisfies second row := by
  rw [Satisfies, Criteria.eval_pair, Junction.combine, Sql.Truth.any_eq_holds_iff]
  simp [Satisfies, eq_comm]

/-- What two criteria both hold of are the rows that have an identity in both sets. -/
theorem identifies_of_both
    (ascending : Ascending table.rows)
    {both : Criteria}
    (satisfies :
      ∀ row, table.Satisfies both row ↔ table.Satisfies first row ∧ table.Satisfies second row)
    (identity : Option Int64) :
    table.Identifies both identity ↔
      table.Identifies first identity ∧ table.Identifies second identity := by
  constructor
  · rintro ⟨row, isRow, isIdentity, satisfiesBoth⟩
    rcases (satisfies row).mp satisfiesBoth with ⟨satisfiesFirst, satisfiesSecond⟩
    exact ⟨⟨row, isRow, isIdentity, satisfiesFirst⟩, ⟨row, isRow, isIdentity, satisfiesSecond⟩⟩
  · rintro ⟨⟨row, isRow, rfl, satisfiesFirst⟩, ⟨other, isOther, same, satisfiesSecond⟩⟩
    -- One identity is that of one row.
    have found := row?_of_mem ascending isOther
    rw [← Option.some.inj same, row?_of_mem ascending isRow] at found
    cases found
    exact ⟨row, isRow, rfl, (satisfies row).mpr ⟨satisfiesFirst, satisfiesSecond⟩⟩

theorem identifies_of_either
    {either : Criteria}
    (satisfies :
      ∀ row, table.Satisfies either row ↔ table.Satisfies first row ∨ table.Satisfies second row)
    (identity : Option Int64) :
    table.Identifies either identity ↔
      table.Identifies first identity ∨ table.Identifies second identity := by
  simp only [Identifies, satisfies, and_or_left, exists_or]

end Together

end Table

/-! ## What filters read -/

namespace Session

variable {session : Session}

/-- A filter reads the records of some identities. -/
def Reads (session : Session) (filter : Filter) (isRead : Option Int64 → Prop) : Prop :=
  ∃ records, (session.perform (.get filter)).1 = .ok (.records records) ∧
    ∀ identity, identity ∈ records.map Record.id ↔ isRead identity

namespace Ready

variable {table : Table} {filter : Filter} {criteria : Criteria}

theorem exists_restriction
    (accepted : Criteria.ofFilter filter = .ok criteria) :
    ∃ restriction, filter.restriction = .ok restriction ∧
      criteria.restriction = .ok restriction := by
  rcases Criteria.exists_restriction (Criteria.wellFormed_of_ofFilter accepted) with
    ⟨restriction, restricts, _⟩
  refine ⟨restriction, ?_, restricts⟩
  rw [Filter.restriction, accepted, Outcome.ok_bind, restricts]

theorem mem_ids_iff
    (isPositive : table.IsPositive)
    (accepted : Criteria.ofFilter filter = .ok criteria)
    {restriction : Restriction}
    (restricts : criteria.restriction = .ok restriction)
    (identity : Option Int64) :
    identity ∈ ((table.matching restriction.condition).map table.recordOf).map Record.id ↔
      table.Identifies criteria identity := by
  have wellFormed := Criteria.wellFormed_of_ofFilter accepted
  rw [List.map_map, List.mem_map]
  constructor
  · rintro ⟨row, member, rfl⟩
    rcases (table.mem_matching _ row).mp member with ⟨isRow, found⟩
    exact ⟨row, isRow, rfl, (Table.finds_iff isPositive wellFormed restricts isRow).mp found⟩
  · rintro ⟨row, isRow, rfl, satisfies⟩
    have found := (Table.finds_iff isPositive wellFormed restricts isRow).mpr satisfies
    exact ⟨row, (table.mem_matching _ row).mpr ⟨isRow, found⟩, rfl⟩

/-- A filter that can be run reads the rows of which its criteria hold. -/
theorem reads
    (ready : session.Ready table)
    (isPositive : table.IsPositive)
    (narrow : session.storage.schema.fields.length < Database.maximalColumns)
    (accepted : Criteria.ofFilter filter = .ok criteria)
    (isSmall : filter.IsSmall)
    (knows : table.Knows criteria) :
    session.Reads filter (table.Identifies criteria) := by
  rcases exists_restriction accepted with ⟨restriction, restricts, restrictsCriteria⟩
  have admits :=
    (Table.admits_iff session.storage.marks_table restricts restrictsCriteria).mpr ⟨isSmall, knows⟩
  refine ⟨_, (ready.get_eq_ok_iff filter _).mpr ⟨restriction, restricts, admits, narrow, rfl⟩, ?_⟩
  exact mem_ids_iff isPositive accepted restrictsCriteria

/-- What a filter that was run tells of its criteria. -/
theorem of_get
    (ready : session.Ready table)
    (isPositive : table.IsPositive)
    {records : List Record}
    (got : (session.perform (.get filter)).1 = .ok (.records records)) :
    ∃ criteria, Criteria.ofFilter filter = .ok criteria ∧
      session.storage.schema.fields.length < Database.maximalColumns ∧
        filter.IsSmall ∧ table.Knows criteria ∧
          ∀ identity, identity ∈ records.map Record.id ↔ table.Identifies criteria identity := by
  rcases (ready.get_eq_ok_iff filter records).mp got with
    ⟨restriction, restricts, admits, narrow, rfl⟩
  rcases Outcome.bind_eq_ok_iff.mp restricts with ⟨criteria, accepted, restrictsCriteria⟩
  rcases (Table.admits_iff session.storage.marks_table restricts restrictsCriteria).mp admits with
    ⟨isSmall, knows⟩
  exact
    ⟨criteria, accepted, narrow, isSmall, knows, mem_ids_iff isPositive accepted restrictsCriteria⟩

/-! ## Filters in another order -/

section Reordered

variable {other : Filter} {otherCriteria : Criteria}

/-- Filters with criteria that are alike find the same rows. -/
theorem finds_eq_of_alike
    (isPositive : table.IsPositive)
    (accepted : Criteria.ofFilter filter = .ok criteria)
    (otherAccepted : Criteria.ofFilter other = .ok otherCriteria)
    (isAlike : criteria.Alike otherCriteria)
    {restriction otherRestriction : Restriction}
    (restricts : criteria.restriction = .ok restriction)
    (otherRestricts : otherCriteria.restriction = .ok otherRestriction)
    {row : Row}
    (member : row ∈ table.rows) :
    table.finds otherRestriction.condition row = table.finds restriction.condition row := by
  rw [Bool.eq_iff_iff,
    Table.finds_iff isPositive (Criteria.wellFormed_of_ofFilter otherAccepted) otherRestricts
      member,
    Table.finds_iff isPositive (Criteria.wellFormed_of_ofFilter accepted) restricts member,
    Table.Satisfies, Table.Satisfies, isAlike.outcome]

/-- Filters with criteria that are alike read, count and remove the same. -/
theorem perform_eq_of_alike
    (ready : session.Ready table)
    (isPositive : table.IsPositive)
    {records : List Record}
    (got : (session.perform (.get filter)).1 = .ok (.records records))
    (accepted : Criteria.ofFilter filter = .ok criteria)
    (otherAccepted : Criteria.ofFilter other = .ok otherCriteria)
    (isAlike : criteria.Alike otherCriteria)
    (hasCriteria : criteria ≠ [])
    (isSmall : other.IsSmall) :
    (∃ others, (session.perform (.get other)).1 = .ok (.records others) ∧ others.Perm records ∧
        (filter.hasChoice = false → other.hasChoice = false → others = records)) ∧
      session.perform (.count other) = session.perform (.count filter) ∧
        session.perform (.delete other) = session.perform (.delete filter) := by
  rcases (ready.get_eq_ok_iff filter records).mp got with
    ⟨restriction, restricts, admits, narrow, rfl⟩
  rcases exists_restriction accepted with ⟨_, restrictsToo, restrictsCriteria⟩
  cases restricts.symm.trans restrictsToo
  rcases exists_restriction otherAccepted with
    ⟨otherRestriction, otherRestricts, otherRestrictsCriteria⟩
  have known :=
    (Table.admits_iff session.storage.marks_table restricts restrictsCriteria).mp admits
  have otherAdmits : table.Admits session.storage.table otherRestriction.condition := by
    apply (Table.admits_iff session.storage.marks_table otherRestricts otherRestrictsCriteria).mpr
    exact ⟨isSmall, fun field member => known.2 field (isAlike.fields.mem_iff.mpr member)⟩
  have sameFound :
      ∀ row ∈ table.rows,
        table.finds otherRestriction.condition row = table.finds restriction.condition row :=
    fun row member =>
      finds_eq_of_alike isPositive accepted otherAccepted isAlike restrictsCriteria
        otherRestrictsCriteria member
  have sameMatching := Table.matching_perm_of_finds sameFound
  have got :=
    (ready.get_eq_ok_iff other _).mpr ⟨otherRestriction, otherRestricts, otherAdmits, narrow, rfl⟩
  refine ⟨⟨_, got, sameMatching.map _, ?_⟩, ?_, ?_⟩
  · intro noChoice noOther
    simp only [Filter.hasChoice, restricts, otherRestricts] at noChoice noOther
    rw [Table.matching_eq_of_perm ready.storage.suits.ascending sameMatching noChoice noOther]
  · have counts :=
      (ready.storage.count_eq_ok_iff filter _).mpr ⟨restriction, restricts, admits, rfl⟩
    have otherCounts :=
      (ready.storage.count_eq_ok_iff other _).mpr
        ⟨otherRestriction, otherRestricts, otherAdmits, rfl⟩
    rw [ready.perform_eq, ready.perform_eq, Storage.perform, Storage.perform, counts, otherCounts,
      sameMatching.length_eq]
  · have removes :=
      (ready.storage.delete_eq_ok_iff filter _ _).mpr
        ⟨restriction, restricts, by simpa [accepted] using hasCriteria, admits, rfl, rfl⟩
    have otherRemoves :=
      (ready.storage.delete_eq_ok_iff other _ _).mpr
        ⟨otherRestriction, otherRestricts,
          by simpa [otherAccepted] using mt isAlike.nothing.mpr hasCriteria, otherAdmits, rfl, rfl⟩
    rw [ready.perform_eq, ready.perform_eq, Storage.perform, Storage.perform, removes, otherRemoves,
      sameMatching.length_eq, Storage.Ready.without,
      Table.others_eq_of_finds sameFound]
    rfl

end Reordered

end Ready

/--
Filters are sets, and their order carries no meaning.

Two filters as the branches of a group read the intersection or the union of
what they read on their own, and merged into one object the intersection.  In
another order, at any depth, a filter reads the same records, counts the same
number and leaves the same behind when it removes.  Where it leaves no choice
between branches, it reads the records in the same order.
-/
theorem filters_form_set_algebra
    (created : session.HasCreated)
    {first second : List (String × Json)}
    (firstSome : first ≠ [])
    (secondSome : second ≠ [])
    {firstRecords secondRecords : List Record}
    (firstGot : (session.perform (.get (.object first))).1 = .ok (.records firstRecords))
    (secondGot : (session.perform (.get (.object second))).1 = .ok (.records secondRecords)) :
    ((Filter.combined .and first second).IsSmall →
        session.Reads (.combined .and first second) fun identity =>
          identity ∈ firstRecords.map Record.id ∧ identity ∈ secondRecords.map Record.id) ∧
      ((Filter.combined .or first second).IsSmall →
        session.Reads (.combined .or first second) fun identity =>
          identity ∈ firstRecords.map Record.id ∨ identity ∈ secondRecords.map Record.id) ∧
      ((second.map Prod.fst).Nodup →
        (∀ key ∈ first.map Prod.fst, key ∉ second.map Prod.fst) →
          (Filter.object (Filter.merge first second)).IsSmall →
            session.Reads (.object (Filter.merge first second)) fun identity =>
              identity ∈ firstRecords.map Record.id ∧ identity ∈ secondRecords.map Record.id) ∧
      ∀ other, Json.Reorders (.object first) (.object other) → (Filter.object other).IsSmall →
        (∃ records, (session.perform (.get (.object other))).1 = .ok (.records records) ∧
            records.Perm firstRecords ∧
              ((Filter.object first).hasChoice = false →
                (Filter.object other).hasChoice = false → records = firstRecords)) ∧
          session.perform (.count (.object other)) = session.perform (.count (.object first)) ∧
            session.perform (.delete (.object other)) =
              session.perform (.delete (.object first)) := by
  rcases created.exists_ready_isPositive with ⟨table, ready, isPositive⟩
  rcases ready.of_get isPositive firstGot with
    ⟨firstCriteria, firstRead, narrow, -, firstKnown, firstIds⟩
  rcases ready.of_get isPositive secondGot with
    ⟨secondCriteria, secondRead, -, -, secondKnown, secondIds⟩
  have ascending := ready.storage.suits.ascending
  have combinedRead (junction : Junction) :=
    Criteria.ofFilter_combined junction firstSome secondSome firstRead secondRead
  have combinedKnown (junction : Junction) :
      table.Knows [.group junction [firstCriteria, secondCriteria]] :=
    Table.knows_append firstKnown secondKnown (Criteria.fields_pair junction)
  simp only [firstIds, secondIds]
  refine ⟨?_, ?_, ?_, ?_⟩
  · intro isSmall
    simp only [← Table.identifies_of_both ascending Table.satisfies_and]
    exact ready.reads isPositive narrow (combinedRead .and) isSmall (combinedKnown .and)
  · intro isSmall
    simp only [← Table.identifies_of_either Table.satisfies_or]
    exact ready.reads isPositive narrow (combinedRead .or) isSmall (combinedKnown .or)
  · intro distinct apart isSmall
    simp only [← Table.identifies_of_both ascending Table.satisfies_append]
    rw [Filter.merge_eq_append distinct apart] at isSmall ⊢
    exact
      ready.reads isPositive narrow (Criteria.ofMembers_append firstRead secondRead) isSmall
        (Table.knows_append firstKnown secondKnown Criteria.fields_append)
  · intro other reorders isSmall
    rcases Criteria.ofMembers_of_reorders reorders firstRead with
      ⟨otherCriteria, otherRead, isAlike⟩
    have hasCriteria : firstCriteria ≠ [] :=
      mt (Criteria.eq_nil_iff_of_ofMembers firstRead).mp firstSome
    exact
      ready.perform_eq_of_alike isPositive firstGot firstRead otherRead isAlike hasCriteria isSmall

/-- Low scores of one name, among all records, are read in either order. -/
theorem low_scores_of_one_name :
    let ada : Record := ⟨none, .ofList [("name", .text "Ada"), ("score", .integer 7)]⟩
    let bob : Record := ⟨none, .ofList [("name", .text "Bob")]⟩
    let session :=
      (((inMemory scores .everyPut).perform (.put ada)).2.perform (.put bob)).2
    let low : List (String × Json) :=
      [("name", .text "Ada"), ("score", .object [("$lt", .integer 10)])]
    let every : List (String × Json) := [("_id", .object [("$gt", .integer 0)])]
    session.Reads (.combined .and low every)
        (fun identity => identity ∈ [some 1] ∧ identity ∈ [some 1, some 2]) ∧
      session.Reads (.combined .or low every)
          (fun identity => identity ∈ [some 1] ∨ identity ∈ [some 1, some 2]) ∧
        session.Reads (.object (Filter.merge low every))
            (fun identity => identity ∈ [some 1] ∧ identity ∈ [some 1, some 2]) ∧
          (session.perform (.get (.object low.reverse))).1 =
              .ok
                (.records [⟨some 1, .ofList [("name", .text "Ada"), ("score", .integer 7)]⟩]) ∧
            session.perform (.delete (.object low.reverse)) =
              session.perform (.delete (.object low)) := by
  intro ada bob session low every
  have created : session.HasCreated := (hasCreated_scores.perform (.put ada)).perform (.put bob)
  have lowGot :
      (session.perform (.get (.object low))).1 =
        .ok (.records [⟨some 1, .ofList [("name", .text "Ada"), ("score", .integer 7)]⟩]) :=
    Outcome.eq_ok_of_toOption (by decide +kernel)
  have everyGot :
      (session.perform (.get (.object every))).1 =
        .ok
          (.records
            [⟨some 1, .ofList [("name", .text "Ada"), ("score", .integer 7)]⟩,
              ⟨some 2, .ofList [("name", .text "Bob"), ("score", .null)]⟩]) :=
    Outcome.eq_ok_of_toOption (by decide +kernel)
  rcases
      filters_form_set_algebra created (by decide) (by decide) lowGot everyGot with
    ⟨intersect, unite, merged, reordered⟩
  rcases reordered low.reverse (.entries low.reverse_perm.symm) (by decide +kernel) with
    ⟨⟨records, got, _, inOrder⟩, _, removes⟩
  refine ⟨intersect (by decide +kernel), unite (by decide +kernel), ?_, ?_, removes⟩
  · exact merged (by decide) (by decide) (by decide +kernel)
  · rw [got, inOrder (by decide +kernel) (by decide +kernel)]

/-- A filter for the row with the third identity, or those before the second one. -/
def thirdOrFirst : List Json :=
  [.object [("_id", .integer 3)], .object [("_id", .object [("$lt", .integer 2)])]]

/-- A filter whose branches are in another order reads its records in another order. -/
theorem branches_decide_order :
    let session :=
      (inMemory scores .everyPut).after
        [.put (person "Ada"), .put (person "Bob"), .put (person "Cleo")]
    let third : Record := ⟨some 3, .ofList [("name", .text "Cleo"), ("score", .null)]⟩
    let one : Record := ⟨some 1, .ofList [("name", .text "Ada"), ("score", .null)]⟩
    session.HasCreated ∧
      Json.Reorders (.object [("$or", .array thirdOrFirst)])
          (.object [("$or", .array thirdOrFirst.reverse)]) ∧
        (session.perform (.get (.object [("$or", .array thirdOrFirst)]))).1 =
            .ok (.records [third, one]) ∧
          (session.perform (.get (.object [("$or", .array thirdOrFirst.reverse)]))).1 =
            .ok (.records [one, third]) := by
  intro session third one
  have created : session.HasCreated :=
    ((hasCreated_scores.perform (.put (person "Ada"))).perform (.put (person "Bob"))).perform
      (.put (person "Cleo"))
  refine ⟨created, .branches [] [] .or (List.reverse_perm _).symm, ?_, ?_⟩
  · exact Outcome.eq_ok_of_toOption (by decide +kernel)
  · exact Outcome.eq_ok_of_toOption (by decide +kernel)

end Session

end RecordStore
