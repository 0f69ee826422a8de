import RecordStore.Proofs.Criteria.Mention
import RecordStore.Proofs.Storage.EveryPut
import RecordStore.Proofs.Storage.Selection

/-!
# Filters that mention unknown fields

No filter is checked against the fields of a schema.  It is the database that
refuses a condition on a column that it does not find, and a name that is
accepted in a filter stands for nothing else than a column, apart from the
names of the row id and of the two truth values.

Main statement: `Session.unknown_field_selects_nothing`.
-/

namespace RecordStore

open Sql (Condition)

/-- A name that is no column stands for the row id, a truth value or nothing. -/
theorem Table.source?_eq_none
    {table : Table}
    {name : String}
    (noColumn : ∀ column ∈ table.columns, Text.sameName name column = false)
    (notAlias : Field.isRowIdAlias name = false)
    (notTrue : Text.sameName name "true" = false)
    (notFalse : Text.sameName name "false" = false) :
    table.source? name = none := by
  have noIndex : table.columnIndex? name = none := List.findIdx?_eq_none_iff.mpr noColumn
  simp [source?, noIndex, notAlias, notTrue, notFalse]

namespace Database

variable {database : Database} {fault : DatabaseFault}

theorem aftermath_of_checkText
    {sql : String}
    {condition : Option (Condition Value)}
    (fails : checkText sql condition = .error fault) :
    fault.aftermath = .nothing := by
  rcases Outcome.bind_eq_error_iff.mp fails with tooDeep | ⟨_, _, tooMany⟩
  · rw [checkDepth.eq_def] at tooDeep
    split at tooDeep
    · contradiction
    · split at tooDeep
      · cases tooDeep
        rfl
      · contradiction
  · rw [checkParameters] at tooMany
    split at tooMany
    · cases tooMany
      rfl
    · contradiction

theorem aftermath_of_getOwnTable
    {name : String}
    (fails : database.getOwnTable name = .error fault) :
    fault.aftermath = .nothing := by
  rcases Outcome.bind_eq_error_iff.mp fails with missing | ⟨table, _, fixed⟩
  · rw [getTable] at missing
    split at missing
    · contradiction
    · cases missing
      rfl
  · split at fixed
    · cases fixed
      rfl
    · contradiction

theorem aftermath_of_checkNames
    {table : Table}
    {sql head : String}
    {condition : Option (Condition Value)}
    (fails : checkNames table sql head condition = .error fault) :
    fault.aftermath = .nothing := by
  rw [checkNames.eq_def] at fails
  split at fails
  · contradiction
  · dsimp only at fails
    split at fails
    · cases fails
      rfl
    · contradiction

/-- A removal fails only for what is wrong with its text, which leaves a transaction alone. -/
theorem aftermath_of_delete
    {name : String}
    {condition : Option (Condition Value)}
    (fails : database.delete name condition = .error fault) :
    fault.aftermath = .nothing := by
  rcases Outcome.bind_eq_error_iff.mp fails with inText | ⟨_, _, later⟩
  · exact aftermath_of_checkText inText
  · rcases Outcome.bind_eq_error_iff.mp later with noTable | ⟨table, _, later⟩
    · exact aftermath_of_getOwnTable noTable
    · rcases Outcome.bind_eq_error_iff.mp later with unnamed | ⟨_, _, done⟩
      · exact aftermath_of_checkNames unnamed
      · contradiction

end Database

namespace Storage

variable {storage : Storage} {filter : Filter} {name : String}

/-- What is got from a storage is read from a table that admits the filter. -/
theorem exists_admits_of_get
    {records : List Record}
    (gets : storage.get filter = .ok records) :
    ∃ restriction table,
      filter.restriction = .ok restriction ∧
        storage.view.relation? storage.table = some table ∧
          table.Admits storage.table restriction.condition ∧
            (Database.resultOf table (table.matching restriction.condition)).records =
              .ok records := by
  rcases Outcome.bind_eq_ok_iff.mp gets with ⟨criteria, accepted, selects⟩
  rcases Outcome.bind_eq_ok_iff.mp selects with ⟨restriction, restricts, reads⟩
  rcases Outcome.bind_eq_ok_iff.mp reads with ⟨results, selects, reads⟩
  have made : filter.restriction = .ok restriction :=
    Outcome.bind_eq_ok_iff.mpr
      ⟨criteria, Outcome.mapError_eq_ok_iff.mp accepted, Outcome.mapError_eq_ok_iff.mp restricts⟩
  rcases DatabaseFault.hinder_eq_ok_iff.mp (Outcome.mapError_eq_ok_iff.mp selects) with
    ⟨_, selects⟩
  rcases Database.exists_admits_of_select selects with ⟨table, found, admits, rfl⟩
  exact ⟨restriction, table, made, found, admits, Outcome.mapError_eq_ok_iff.mp reads⟩

/-- Wherever the storage looks for its table, a name stands for nothing in it. -/
def Lacks (storage : Storage) (name : String) : Prop :=
  ∀ table, storage.view.relation? storage.table = some table → table.source? name = none

/-- A table in which a name stands for nothing admits no filter that mentions it. -/
theorem Lacks.not_admits
    (lacks : storage.Lacks name)
    (mentions : name ∈ filter.names)
    (notIdentity : name ≠ Field.identityName)
    {restriction : Restriction}
    (made : filter.restriction = .ok restriction)
    {table : Table}
    (found : storage.view.relation? storage.table = some table) :
    ¬ table.Admits storage.table restriction.condition := by
  intro admits
  rcases Filter.exists_column mentions notIdentity made with ⟨condition, isCondition, isColumn⟩
  have isNamed := admits.named condition isCondition name isColumn
  rw [lacks table found] at isNamed
  contradiction

theorem Lacks.get_ne_ok
    (lacks : storage.Lacks name)
    (mentions : name ∈ filter.names)
    (notIdentity : name ≠ Field.identityName)
    (records : List Record) :
    storage.get filter ≠ .ok records := by
  intro succeeds
  rcases exists_admits_of_get succeeds with ⟨_, _, made, found, admits, _⟩
  exact lacks.not_admits mentions notIdentity made found admits

theorem Lacks.count_ne_ok
    (lacks : storage.Lacks name)
    (mentions : name ∈ filter.names)
    (notIdentity : name ≠ Field.identityName)
    (number : Nat) :
    storage.count filter ≠ .ok number := by
  intro succeeds
  rcases Outcome.bind_eq_ok_iff.mp succeeds with ⟨restriction, restricts, reads⟩
  have made : filter.restriction = .ok restriction := Outcome.mapError_eq_ok_iff.mp restricts
  rcases DatabaseFault.hinder_eq_ok_iff.mp (Outcome.mapError_eq_ok_iff.mp reads) with
    ⟨_, counts⟩
  rcases Database.exists_admits_of_count counts with ⟨table, found, admits⟩
  exact lacks.not_admits mentions notIdentity made found admits

/-- A removal by a filter that mentions the name is refused, and leaves the transaction alone. -/
theorem Lacks.exists_delete_eq_error
    (lacks : storage.Lacks name)
    (mentions : name ∈ filter.names)
    (notIdentity : name ≠ Field.identityName) :
    ∃ error, (storage.delete filter).1 = .error error ∧ error.aftermath = .nothing := by
  rw [delete]
  split
  · next error refuses => exact ⟨error, rfl, aftermath_of_removal refuses⟩
  · next restriction removes =>
      have made := ((removal_eq_ok_iff filter restriction).mp removes).1
      have sameTable : storage.begin.table = storage.table := storage.continues_begin.table_eq
      rw [deleteMatching, view_begin, sameTable]
      cases removal : storage.view.delete storage.table restriction.condition with
      | ok removed =>
          obtain ⟨table, found, admits, _⟩ := Database.exists_admits_of_delete removal
          have isTable := (Database.getOwnTable_eq_ok_iff.mp found).1
          exact absurd admits (lacks.not_admits mentions notIdentity made isTable)
      | error fault =>
          -- What is wrong with the text shows before anything that hinders the removal.
          have noTrace := Database.aftermath_of_delete removal
          have isFault :
              storage.begin.writing (.error fault : Except DatabaseFault (Nat × Database)) =
                .error (.database fault) := by
            rw [writing]
            cases storage.begin.writeHindrance with
            | none => rfl
            | some hindrance =>
                have notInRun : fault.arisesInRun = false := by
                  rw [DatabaseFault.arisesInRun, noTrace]
                rw [DatabaseFault.hinder, if_neg (by simp [notInRun])]
                rfl
          rw [isFault]
          exact ⟨_, rfl, noTrace⟩

end Storage

namespace Session

/--
A filter that mentions a name that is no column of the table, no name of the
row id and none of the truth values gets nothing, counts nothing and removes
nothing: all three fail, and the rows stay as they are.
-/
theorem unknown_field_selects_nothing
    {session : Session}
    {filter : Filter}
    {name : String}
    (mentions : name ∈ filter.names)
    (notIdentity : name ≠ Field.identityName)
    (notAlias : Field.isRowIdAlias name = false)
    (notTrue : Text.sameName name "true" = false)
    (notFalse : Text.sameName name "false" = false)
    (noColumn :
      ∀ table, session.current.view.relation? session.storage.table = some table →
        ∀ column ∈ table.columns, Text.sameName name column = false) :
    (∃ error, (session.perform (.get filter)).1 = .error error) ∧
      (∃ error, (session.perform (.count filter)).1 = .error error) ∧
        (∃ error, (session.perform (.delete filter)).1 = .error error) ∧
          (session.perform (.delete filter)).2.view = session.current.view ∧
            (session.perform (.delete filter)).2.storage.committed =
              session.current.committed := by
  have lacks : session.current.Lacks name := fun table found =>
    Table.source?_eq_none (noColumn table found) notAlias notTrue notFalse
  obtain ⟨error, fails, noTrace⟩ := lacks.exists_delete_eq_error mentions notIdentity
  refine ⟨?_, ?_, ⟨error, Outcome.map_eq_error_iff.mpr fails⟩, ?_⟩
  · cases outcome : session.current.get filter with
    | error error => exact ⟨error, Outcome.map_eq_error_iff.mpr outcome⟩
    | ok records => exact absurd outcome (lacks.get_ne_ok mentions notIdentity records)
  · cases outcome : session.current.count filter with
    | error error => exact ⟨error, Outcome.map_eq_error_iff.mpr outcome⟩
    | ok number => exact absurd outcome (lacks.count_ne_ok mentions notIdentity number)
  · have notPut (record : Record) : Storage.Operation.delete filter ≠ .put record := nofun
    have failure := Storage.fails_delete notPut fails
    exact
      ⟨failure.view_eq (by simp [noTrace]) (Storage.not_stores_of_ne_put notPut),
        failure.committed_eq⟩

/-- A name that is spelled wrong in one branch of a group lets the whole removal fail. -/
theorem misspelled_branch_removes_nothing :
    let session := (committing.perform (.put (person "Ada"))).2
    let filter : Filter :=
      .object [("$or", .array [.object [("name", .text "Ada")], .object [("nmae", .null)]])]
    (∃ error, (session.perform (.delete filter)).1 = .error error) ∧
      ((session.perform (.delete filter)).2.view.row? "t" 1).isSome = true := by
  intro session filter
  have mentions : "nmae" ∈ filter.names := by decide +kernel
  have found :
      (session.current.view.relation? session.storage.table).map Table.columns =
        some ["name"] := by
    decide +kernel
  have noColumn :
      ∀ table, session.current.view.relation? session.storage.table = some table →
        ∀ column ∈ table.columns, Text.sameName "nmae" column = false := by
    intro table isTable
    rw [isTable] at found
    rw [Option.some.inj found]
    decide
  have fails :=
    unknown_field_selects_nothing mentions (by decide) (by decide) (by decide) (by decide) noColumn
  refine ⟨fails.2.2.1, ?_⟩
  have isThere : (session.current.view.row? "t" 1).isSome = true := by decide +kernel
  rw [fails.2.2.2.1]
  exact isThere

/-- The name of a truth value is accepted and is no column, and selects every record. -/
theorem truth_value_selects_everything :
    let session := (committing.perform (.put (person "Ada"))).2
    let filter : Filter := .object [("true", .integer 1)]
    (Criteria.ofFilter filter).isOk = true ∧
      "true" ∈ filter.names ∧ "true" ≠ Field.identityName ∧
        Field.isRowIdAlias "true" = false ∧
          (session.current.view.relation? session.storage.table).map Table.columns =
              some ["name"] ∧
            (session.perform (.get filter)).1 =
                .ok (.records [⟨some 1, (person "Ada").fields⟩]) ∧
              (session.perform (.count filter)).1 = .ok (.count 1) ∧
                (session.perform (.delete filter)).1 = .ok (.count 1) ∧
                  (session.perform (.delete filter)).2.row? 1 = none := by
  intro session filter
  refine ⟨?_, ?_, ?_, ?_, ?_, ?_, ?_, ?_, ?_⟩
  · decide +kernel
  · decide +kernel
  · decide
  · decide
  · decide +kernel
  · exact Outcome.eq_ok_of_toOption (by decide +kernel)
  · exact Outcome.eq_ok_of_toOption (by decide +kernel)
  · exact Outcome.eq_ok_of_toOption (by decide +kernel)
  · decide +kernel

end Session

end RecordStore
