import RecordStore.Proofs.Storage.Wide

/-!
# Reading, counting and removing select the same rows

A filter selects the same rows whether they are read, counted or removed, as
long as a result has room for their columns.  A removal takes exactly the rows
that would have been read, and it has a condition in its text in any case: a
filter that restricts nothing is refused before anything is touched.

Main statement: `Session.get_count_delete_agree`.
-/

namespace RecordStore

open Sql (Condition Statement)

/-! ## Filters and conditions -/

namespace Filter

/-- A filter has no condition when it has no criteria. -/
theorem condition_eq_none_iff
    {filter : Filter}
    {restriction : Restriction}
    (restricts : filter.restriction = .ok restriction) :
    restriction.condition = none ↔ Criteria.ofFilter filter = .ok [] := by
  rcases Outcome.bind_eq_ok_iff.mp restricts with ⟨criteria, accepted, restrictsCriteria⟩
  rcases Criteria.exists_restriction (Criteria.wellFormed_of_ofFilter accepted) with
    ⟨other, restrictsToo, empty, _⟩
  cases restrictsCriteria.symm.trans restrictsToo
  rw [empty, accepted]
  constructor
  · rintro rfl
    rfl
  · intro same
    exact Except.ok.inj same

end Filter

namespace Storage

theorem removal_eq_ok_iff (filter : Filter) (restriction : Restriction) :
    removal filter = .ok restriction ↔
      filter.restriction = .ok restriction ∧ Criteria.ofFilter filter ≠ .ok [] := by
  rw [removal, Filter.restriction]
  cases accepted : Criteria.ofFilter filter with
  | error fault => simp
  | ok criteria =>
      cases criteria with
      | nil => simp
      | cons criterion rest =>
          simp only [Outcome.mapError_ok, Outcome.ok_bind, List.isEmpty_cons]
          rw [if_neg Bool.false_ne_true, Outcome.mapError_eq_ok_iff]
          simp

theorem removal_of_nothing
    {filter : Filter}
    (nothing : Criteria.ofFilter filter = .ok []) :
    removal filter = .error .missingCriteria := by
  rw [removal, nothing]
  rfl

namespace Ready

variable {storage : Storage} {table : Table}

theorem delete_eq_ok_iff
    (ready : storage.Ready table)
    (filter : Filter)
    (number : Nat)
    (after : Storage) :
    storage.delete filter = (.ok number, after) ↔
      ∃ restriction, filter.restriction = .ok restriction ∧
        Criteria.ofFilter filter ≠ .ok [] ∧
          table.Admits storage.table restriction.condition ∧
            number = (table.matching restriction.condition).length ∧
              after = storage.begin.write (without storage table restriction.condition) := by
  rw [delete]
  cases removes : removal filter with
  | error error =>
      simp only [Prod.mk.injEq, reduceCtorEq, false_and, false_iff, not_exists]
      rintro restriction ⟨restricts, hasCriteria, -⟩
      have succeeds := (removal_eq_ok_iff filter restriction).mpr ⟨restricts, hasCriteria⟩
      rw [removes] at succeeds
      contradiction
  | ok restriction =>
      rcases (removal_eq_ok_iff filter restriction).mp removes with ⟨restricts, hasCriteria⟩
      dsimp only
      rw [ready.deleteMatching_eq_ok_iff]
      constructor
      · intro effects
        exact ⟨restriction, restricts, hasCriteria, effects⟩
      · rintro ⟨other, restrictsToo, _, effects⟩
        cases restricts.symm.trans restrictsToo
        exact effects

/-- What is met can be admitted again after rows were removed, and is met no more. -/
theorem matching_others (table : Table) (condition : Option (Condition Value)) :
    ({ table with rows := table.others condition } : Table).matching condition = [] := by
  apply List.eq_nil_iff_forall_not_mem.mpr
  intro row member
  rcases (Table.mem_matching _ condition row).mp member with ⟨isKept, found⟩
  have isOther : row ∈ table.rows.filter fun row => !table.finds condition row := isKept
  rw [Table.finds_withRows] at found
  simp [found] at isOther

theorem admits_withRows
    {name : String}
    {condition : Option (Condition Value)}
    (admits : table.Admits name condition)
    (rows : List Row) :
    ({ table with rows := rows } : Table).Admits name condition :=
  ⟨admits.shallow, admits.few, admits.named⟩

theorem ids_matching
    (ready : storage.Ready table)
    (condition : Option (Condition Value)) :
    (((table.matching condition).map table.recordOf).map Record.id).Nodup := by
  have ids :
      ((table.matching condition).map table.recordOf).map Record.id =
        ((table.matching condition).map Row.id).map some := by
    rw [List.map_map, List.map_map]
    rfl
  rw [ids]
  apply List.Nodup.map fun _ _ same => Option.some.inj same
  have met := (table.matching_perm condition).map Row.id
  rw [met.nodup_iff]
  exact (ready.suits.ascending.filter _).ids_nodup

/-- A record is read for an id when the row under it is met. -/
theorem mem_ids_matching
    (ready : storage.Ready table)
    (condition : Option (Condition Value))
    (id : Int64) :
    some id ∈ ((table.matching condition).map table.recordOf).map Record.id ↔
      ∃ row, table.row? id = some row ∧ table.finds condition row = true := by
  simp only [List.map_map, List.mem_map, Function.comp_apply]
  constructor
  · rintro ⟨row, member, sameId⟩
    rcases (table.mem_matching condition row).mp member with ⟨isRow, found⟩
    cases Option.some.inj sameId
    exact ⟨row, Table.row?_of_mem ready.suits.ascending isRow, found⟩
  · rintro ⟨row, isRow, found⟩
    rcases Table.mem_of_row? isRow with ⟨member, rfl⟩
    exact ⟨row, (table.mem_matching condition row).mpr ⟨member, found⟩, rfl⟩

end Ready

end Storage

namespace Session

variable {session : Session} {table : Table}

namespace Ready

theorem get_eq_ok_iff
    (ready : session.Ready table)
    (filter : Filter)
    (records : List Record) :
    (session.perform (.get filter)).1 = .ok (.records records) ↔
      ∃ restriction, filter.restriction = .ok restriction ∧
        table.Admits session.storage.table restriction.condition ∧
          session.storage.schema.fields.length < Database.maximalColumns ∧
            records = (table.matching restriction.condition).map table.recordOf := by
  rw [ready.perform_eq, ← ready.storage.get_eq_ok_iff]
  show (session.storage.get filter).map Storage.Outcome.records = _ ↔ _
  cases session.storage.get filter with
  | error error => simp [Except.map]
  | ok found => simp [Except.map]

theorem count_eq_ok_iff
    (ready : session.Ready table)
    (filter : Filter)
    (number : Nat) :
    (session.perform (.count filter)).1 = .ok (.count number) ↔
      ∃ restriction, filter.restriction = .ok restriction ∧
        table.Admits session.storage.table restriction.condition ∧
          number = (table.matching restriction.condition).length := by
  rw [ready.perform_eq, ← ready.storage.count_eq_ok_iff]
  show (session.storage.count filter).map Storage.Outcome.count = _ ↔ _
  cases session.storage.count filter with
  | error error => simp [Except.map]
  | ok found => simp [Except.map]

theorem delete_eq_ok_iff
    (ready : session.Ready table)
    (filter : Filter)
    (number : Nat) :
    (session.perform (.delete filter)).1 = .ok (.count number) ↔
      ∃ restriction, filter.restriction = .ok restriction ∧
        Criteria.ofFilter filter ≠ .ok [] ∧
          table.Admits session.storage.table restriction.condition ∧
            number = (table.matching restriction.condition).length := by
  rw [ready.perform_eq]
  show (session.storage.delete filter).1.map Storage.Outcome.count = _ ↔ _
  constructor
  · intro succeeds
    rcases outcome : session.storage.delete filter with ⟨error | found, after⟩
    · rw [outcome] at succeeds
      contradiction
    · rw [outcome] at succeeds
      cases succeeds
      rcases (ready.storage.delete_eq_ok_iff filter number after).mp outcome with
        ⟨restriction, restricts, hasCriteria, admits, isNumber, _⟩
      exact ⟨restriction, restricts, hasCriteria, admits, isNumber⟩
  · rintro ⟨restriction, restricts, hasCriteria, admits, isNumber⟩
    have removes :=
      (ready.storage.delete_eq_ok_iff filter number _).mpr
        ⟨restriction, restricts, hasCriteria, admits, isNumber, rfl⟩
    rw [removes]
    rfl

/-- After a removal the session sees the rows that were not met. -/
theorem delete
    (ready : session.Ready table)
    {filter : Filter}
    {restriction : Restriction}
    (restricts : filter.restriction = .ok restriction)
    (hasCriteria : Criteria.ofFilter filter ≠ .ok [])
    (admits : table.Admits session.storage.table restriction.condition) :
    (session.perform (.delete filter)).2.Ready
        { table with rows := table.others restriction.condition } ∧
      (session.perform (.delete filter)).2.view =
        Storage.Ready.without session.storage table restriction.condition := by
  have removes :=
    (ready.storage.delete_eq_ok_iff filter _ _).mpr
      ⟨restriction, restricts, hasCriteria, admits, rfl, rfl⟩
  have isAfter :
      (session.storage.perform (.delete filter)).2 =
        session.storage.begin.write
          (Storage.Ready.without session.storage table restriction.condition) := by
    show (session.storage.delete filter).2 = _
    rw [removes]
  constructor
  · apply ready.perform_of_ready
    rw [isAfter]
    exact ready.storage.removed restriction.condition
  · rw [ready.perform_eq, view, isAfter]
    exact Storage.view_write _ _

/-- The rows that are met are gone after a removal, and the others are as they were. -/
theorem row?_delete
    (ready : session.Ready table)
    {filter : Filter}
    {restriction : Restriction}
    (restricts : filter.restriction = .ok restriction)
    (hasCriteria : Criteria.ofFilter filter ≠ .ok [])
    (admits : table.Admits session.storage.table restriction.condition)
    (id : Int64) :
    (session.perform (.delete filter)).2.row? id =
      if some id ∈ ((table.matching restriction.condition).map table.recordOf).map Record.id then
        none
      else session.row? id := by
  have ascending := ready.storage.suits.ascending
  have isReady := (ready.delete restricts hasCriteria admits).1
  have kept :=
    Table.row?_filter ascending (fun row => !table.finds restriction.condition row) id
  rw [row?, view, isReady.storage.row?_eq, Table.others_eq_filter, kept, row?, view,
    ready.storage.row?_eq]
  split
  · next isMet =>
      rcases (ready.storage.mem_ids_matching _ id).mp isMet with ⟨row, isRow, found⟩
      rw [isRow, Option.filter_some_neg (by simp [found])]
      rfl
  · next notMet =>
      cases isRow : table.row? id with
      | none => rfl
      | some row =>
          have notFound : table.finds restriction.condition row = false := by
            by_contra found
            rw [Bool.not_eq_false] at found
            exact notMet ((ready.storage.mem_ids_matching _ id).mpr ⟨row, isRow, found⟩)
          rw [Option.filter_some_pos (by simp [notFound])]

theorem table?_delete
    (ready : session.Ready table)
    {filter : Filter}
    {restriction : Restriction}
    (restricts : filter.restriction = .ok restriction)
    (hasCriteria : Criteria.ofFilter filter ≠ .ok [])
    (admits : table.Admits session.storage.table restriction.condition)
    {name : String}
    (differ : Text.sameName session.storage.table name = false) :
    (session.perform (.delete filter)).2.table? name = session.table? name := by
  have keepsName :
      ({ table with rows := table.others restriction.condition } : Table).name = table.name := rfl
  rw [table?, (ready.delete restricts hasCriteria admits).2, Storage.Ready.without,
    Database.table?_replaceTable ready.storage.found keepsName, differ]
  rfl

end Ready

/-- After a removal the same filter reads nothing. -/
theorem Ready.get_delete
    (ready : session.Ready table)
    (narrow : session.storage.schema.fields.length < Database.maximalColumns)
    {filter : Filter}
    {restriction : Restriction}
    (restricts : filter.restriction = .ok restriction)
    (hasCriteria : Criteria.ofFilter filter ≠ .ok [])
    (admits : table.Admits session.storage.table restriction.condition) :
    ((session.perform (.delete filter)).2.perform (.get filter)).1 = .ok (.records []) := by
  have isReady := (ready.delete restricts hasCriteria admits).1
  apply (isReady.get_eq_ok_iff filter []).mpr
  refine ⟨restriction, restricts, ?_, ?_, ?_⟩
  · rw [table_perform]
    exact Storage.Ready.admits_withRows admits _
  · rw [schema_perform]
    exact narrow
  · rw [Storage.Ready.matching_others]
    rfl

/-- A filter that restricts nothing is refused before anything is touched. -/
theorem Ready.delete_of_nothing
    (ready : session.Ready table)
    {filter : Filter}
    (nothing : Criteria.ofFilter filter = .ok []) :
    (session.perform (.delete filter)).1 = .error .missingCriteria ∧
      (session.perform (.delete filter)).2.storage = session.storage ∧
        (session.perform (.delete filter)).2.workspace.entries = session.workspace.entries := by
  have refuses : session.storage.delete filter = (.error .missingCriteria, session.storage) := by
    rw [Storage.delete, Storage.removal_of_nothing nothing]
  have isSame :
      session.storage.perform (.delete filter) = (.error .missingCriteria, session.storage) := by
    rw [Storage.perform, refuses]
    rfl
  rw [ready.perform_eq, isSame]
  refine ⟨rfl, rfl, ?_⟩
  rw [Storage.entries_save]
  cases isPlace : session.storage.connection.place with
  | none => simp only [Workspace.save, isPlace]
  | some place =>
      rcases Workspace.save_eq_or session.workspace isPlace session.storage.committed with
        same | ⟨isNew, _⟩
      · rw [same]
      · exact absurd (ready.settled.holds place isPlace) isNew

/-! ## The three ways to use a filter -/

section Ways

variable (filter : Filter)

theorem Ready.exists_get_iff_count
    (ready : session.Ready table)
    (narrow : session.storage.schema.fields.length < Database.maximalColumns) :
    (∃ records, (session.perform (.get filter)).1 = .ok (.records records)) ↔
      ∃ number, (session.perform (.count filter)).1 = .ok (.count number) := by
  constructor
  · rintro ⟨records, got⟩
    rcases (ready.get_eq_ok_iff filter records).mp got with ⟨restriction, restricts, admits, _, _⟩
    exact ⟨_, (ready.count_eq_ok_iff filter _).mpr ⟨restriction, restricts, admits, rfl⟩⟩
  · rintro ⟨number, counted⟩
    rcases (ready.count_eq_ok_iff filter number).mp counted with
      ⟨restriction, restricts, admits, _⟩
    exact ⟨_, (ready.get_eq_ok_iff filter _).mpr ⟨restriction, restricts, admits, narrow, rfl⟩⟩

theorem Ready.exists_delete_iff_get
    (ready : session.Ready table)
    (narrow : session.storage.schema.fields.length < Database.maximalColumns) :
    (∃ number, (session.perform (.delete filter)).1 = .ok (.count number)) ↔
      (∃ records, (session.perform (.get filter)).1 = .ok (.records records)) ∧
        Criteria.ofFilter filter ≠ .ok [] := by
  constructor
  · rintro ⟨number, removed⟩
    rcases (ready.delete_eq_ok_iff filter number).mp removed with
      ⟨restriction, restricts, hasCriteria, admits, _⟩
    have got := (ready.get_eq_ok_iff filter _).mpr ⟨restriction, restricts, admits, narrow, rfl⟩
    exact ⟨⟨_, got⟩, hasCriteria⟩
  · rintro ⟨⟨records, got⟩, hasCriteria⟩
    rcases (ready.get_eq_ok_iff filter records).mp got with ⟨restriction, restricts, admits, _, _⟩
    have removed :=
      (ready.delete_eq_ok_iff filter _).mpr ⟨restriction, restricts, hasCriteria, admits, rfl⟩
    exact ⟨_, removed⟩

/-- Every record that is read is that of a row which the session sees. -/
theorem Ready.exists_row_of_mem
    (ready : session.Ready table)
    {condition : Option (Condition Value)}
    {record : Record}
    (member : record ∈ (table.matching condition).map table.recordOf) :
    ∃ id row, session.row? id = some row ∧ record = .ofRow id row := by
  rcases List.mem_map.mp member with ⟨row, isMet, rfl⟩
  have isRow := ((table.mem_matching _ row).mp isMet).1
  refine ⟨row.id, table.columns.zip row.cells, ?_, rfl⟩
  rw [row?, view, ready.storage.row?_eq, Table.row?_of_mem ready.storage.suits.ascending isRow]
  rfl

end Ways

/--
Reading, counting and removing by a filter select the same rows.

A removal needs criteria besides, and reports their absence before anything
else; with them it removes the rows that would have been read, and no others.
-/
theorem get_count_delete_agree
    (created : session.HasCreated)
    (narrow : session.storage.schema.fields.length < Database.maximalColumns)
    (filter : Filter) :
    ((∃ records, (session.perform (.get filter)).1 = .ok (.records records)) ↔
        ∃ number, (session.perform (.count filter)).1 = .ok (.count number)) ∧
      ((∃ number, (session.perform (.delete filter)).1 = .ok (.count number)) ↔
          (∃ records, (session.perform (.get filter)).1 = .ok (.records records)) ∧
            Criteria.ofFilter filter ≠ .ok []) ∧
        (∀ records, (session.perform (.get filter)).1 = .ok (.records records) →
          (session.perform (.count filter)).1 = .ok (.count records.length) ∧
            (records.map Record.id).Nodup ∧
              (∀ record ∈ records, ∃ id row,
                session.row? id = some row ∧ record = .ofRow id row) ∧
                (Criteria.ofFilter filter ≠ .ok [] →
                  (session.perform (.delete filter)).1 = .ok (.count records.length) ∧
                    (∀ id,
                      (session.perform (.delete filter)).2.row? id =
                        if some id ∈ records.map Record.id then none else session.row? id) ∧
                      (∀ name, Text.sameName session.storage.table name = false →
                        (session.perform (.delete filter)).2.table? name =
                          session.table? name) ∧
                        ((session.perform (.delete filter)).2.perform (.get filter)).1 =
                          .ok (.records []))) ∧
          (Criteria.ofFilter filter = .ok [] →
            (session.perform (.delete filter)).1 = .error .missingCriteria ∧
              (session.perform (.delete filter)).2.storage = session.storage ∧
                (session.perform (.delete filter)).2.workspace.entries =
                  session.workspace.entries) ∧
            ∀ restriction, Storage.removal filter = .ok restriction →
              ∃ condition, restriction.condition = some condition ∧
                (Statement.delete session.storage.table restriction.condition).text =
                  Statement.deleteHead session.storage.table ++ Statement.whereKeyword ++
                    condition.text ++ ";" := by
  rcases created.exists_ready with ⟨table, ready⟩
  refine ⟨?_, ?_, ?_, ?_, ?_⟩
  · exact ready.exists_get_iff_count filter narrow
  · exact ready.exists_delete_iff_get filter narrow
  · intro records got
    rcases (ready.get_eq_ok_iff filter records).mp got with
      ⟨restriction, restricts, admits, _, rfl⟩
    rw [List.length_map]
    refine ⟨?_, ?_, ?_, ?_⟩
    · exact (ready.count_eq_ok_iff filter _).mpr ⟨restriction, restricts, admits, rfl⟩
    · exact ready.storage.ids_matching restriction.condition
    · intro record member
      exact ready.exists_row_of_mem member
    · intro hasCriteria
      refine ⟨?_, ?_, ?_, ?_⟩
      · apply (ready.delete_eq_ok_iff filter _).mpr
        exact ⟨restriction, restricts, hasCriteria, admits, rfl⟩
      · exact ready.row?_delete restricts hasCriteria admits
      · intro name differ
        exact ready.table?_delete restricts hasCriteria admits differ
      · exact ready.get_delete narrow restricts hasCriteria admits
  · exact ready.delete_of_nothing
  · intro restriction removes
    rcases (Storage.removal_eq_ok_iff filter restriction).mp removes with ⟨restricts, hasCriteria⟩
    cases isCondition : restriction.condition with
    | none => exact absurd ((Filter.condition_eq_none_iff restricts).mp isCondition) hasCriteria
    | some condition => exact ⟨condition, rfl, rfl⟩

theorem hasCreated_scores : (inMemory scores .everyPut).HasCreated := by
  have accepted : Schema.ofNames ["name", "score"] = .ok scores := by decide +kernel
  have checked : Database.checkColumns "t" [] scores.fields = .ok () := by decide
  exact ⟨_, [], creates_inMemory accepted checked .everyPut, rfl⟩

/-- A low score is removed; that a missing one is low is unknown, so that it stays. -/
theorem low_score_removed :
    let ada : Record := ⟨none, .ofList [("name", .text "Ada"), ("score", .integer 7)]⟩
    let bob : Record := ⟨none, .ofList [("name", .text "Bob")]⟩
    let session :=
      (((inMemory scores .everyPut).perform (.put ada)).2.perform (.put bob)).2
    let low : Filter := .object [("score", .object [("$lt", .integer 10)])]
    (session.perform (.delete low)).1 = .ok (.count 1) ∧
      (session.perform (.delete low)).2.row? 1 = none ∧
        (session.perform (.delete low)).2.row? 2 =
          some [("name", .text [66, 111, 98]), ("score", .null)] := by
  intro ada bob session low
  have created : session.HasCreated := (hasCreated_scores.perform (.put ada)).perform (.put bob)
  have agree := get_count_delete_agree created (by decide +kernel) low
  have got :
      (session.perform (.get low)).1 =
        .ok (.records [⟨some 1, .ofList [("name", .text "Ada"), ("score", .integer 7)]⟩]) :=
    Outcome.eq_ok_of_toOption (by decide +kernel)
  have removes : (session.perform (.delete low)).1 = .ok (.count 1) :=
    Outcome.eq_ok_of_toOption (by decide +kernel)
  have hasCriteria := (agree.2.1.mp ⟨1, removes⟩).2
  rcases (agree.2.2.1 _ got).2.2.2 hasCriteria with ⟨_, rows, _, _⟩
  refine ⟨removes, rows 1, (rows 2).trans ?_⟩
  decide +kernel

/-- The rows of the widest table can be counted and removed, and cannot be read. -/
theorem widest_rows_are_not_read :
    (inMemory Wide.schema .manual).HasCreated ∧
      (∃ number,
        ((inMemory Wide.schema .manual).perform (.count (.identity 1))).1 =
          .ok (.count number)) ∧
        (∃ number,
          ((inMemory Wide.schema .manual).perform (.delete (.identity 1))).1 =
            .ok (.count number)) ∧
          ((inMemory Wide.schema .manual).perform (.get (.identity 1))).1 =
            .error (.database .tooManyResultColumns) := by
  have created : (inMemory Wide.schema .manual).HasCreated := ⟨_, [], Wide.creates_wide, rfl⟩
  rcases created.exists_ready with ⟨table, ready⟩
  have restricts := Storage.Ready.restriction_identity 1
  have admits := ready.storage.admits_ofId 1
  have wide : Database.maximalColumns ≤ Wide.schema.fields.length := Wide.length_names.ge
  have hasCriteria : Criteria.ofFilter (.identity 1) ≠ .ok [] := by
    intro same
    cases same
  refine ⟨created, ⟨_, (ready.count_eq_ok_iff _ _).mpr ⟨_, restricts, admits, rfl⟩⟩, ?_, ?_⟩
  · exact ⟨_, (ready.delete_eq_ok_iff _ _).mpr ⟨_, restricts, hasCriteria, admits, rfl⟩⟩
  · rw [ready.perform_eq]
    simp only [Storage.perform, Storage.observe, ready.storage.get_of_wide restricts admits wide]
    rfl

end Session

end RecordStore
