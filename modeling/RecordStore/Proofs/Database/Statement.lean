import RecordStore.Database.Basic
import RecordStore.Proofs.Database.Plan
import RecordStore.Proofs.Outcome

/-!
# Statements that a table admits

Reading, counting and removing check their statement first, and they all ask
for the same: the condition is shallow enough, there are few enough
placeholders, and every column of the condition stands for something.  What
stands before the condition makes no difference.  A statement that is admitted
is carried out, only that a result may have too many columns.

Main statements: `Database.select_eq_ok_iff`, `Database.count_eq_ok_iff` and
`Database.delete_eq_ok_iff`.
-/

namespace RecordStore

open Sql (Condition Statement)

namespace Sql

@[simp]
theorem marks_append (left right : String) :
    marks (left ++ right) = marks left + marks right := by
  simp [marks]

namespace Condition

theorem columnPlaces_columns {α : Type} (condition : Condition α) (start : Nat) :
    (condition.columnPlaces start).map Prod.fst = condition.columns := by
  induction condition generalizing start with
  | compare | member | isNull => rfl
  | and left right leftSame rightSame
  | or left right leftSame rightSame =>
      simp [columnPlaces, columns, leftSame, rightSame]
  | paren inner same => exact same (start + 1)

theorem excessPlaceholder?_eq_none_iff
    (allowed offset : Nat)
    (characters : List Char) :
    excessPlaceholder? allowed offset characters = none ↔
      characters.count '?' ≤ allowed := by
  induction characters generalizing allowed offset with
  | nil => simp [excessPlaceholder?]
  | cons c rest induction =>
      by_cases isMark : c = '?'
      · cases allowed with
        | zero => simp [excessPlaceholder?, isMark]
        | succ allowed => simp [excessPlaceholder?, isMark, induction]
      · rw [List.count_cons_of_ne isMark, ← induction allowed (offset + c.utf8Size)]
        simp [excessPlaceholder?.eq_def _ _ (c :: rest), isMark]

end Condition

namespace Statement

variable {α : Type}

/-- How many placeholders a condition has in its text. -/
def conditionMarks (condition : Option (Condition α)) : Nat :=
  (condition.map fun inner => marks inner.text).getD 0

theorem marks_withCondition (head : String) (condition : Option (Condition α)) :
    marks (withCondition head condition) = marks head + conditionMarks condition := by
  cases condition with
  | none => rw [withCondition, marks_append]; rfl
  | some inner =>
      simp only [withCondition, marks_append]
      rfl

theorem marks_selectHead (name : String) : marks (selectHead name) = marks name := by
  have start : marks "SELECT rowid, * FROM " = 0 := by decide
  show marks ("SELECT rowid, * FROM " ++ name) = marks name
  rw [marks_append, start, Nat.zero_add]

theorem marks_countHead (name : String) : marks (countHead name) = marks name := by
  have start : marks "SELECT count(*) FROM " = 0 := by decide
  show marks ("SELECT count(*) FROM " ++ name) = marks name
  rw [marks_append, start, Nat.zero_add]

theorem marks_deleteHead (name : String) : marks (deleteHead name) = marks name := by
  have start : marks "DELETE FROM " = 0 := by decide
  show marks ("DELETE FROM " ++ name) = marks name
  rw [marks_append, start, Nat.zero_add]

end Statement

end Sql

/-- A statement with a condition can be run on a table under a name. -/
structure Table.Admits
    (table : Table)
    (name : String)
    (condition : Option (Condition Value)) :
    Prop where
  shallow : ∀ inner ∈ condition, inner.height ≤ DatabaseFault.maximalDepth
  few : Sql.marks name + Statement.conditionMarks condition ≤ Database.maximalParameters
  named : ∀ inner ∈ condition, ∀ column ∈ inner.columns, (table.source? column).isSome

namespace Database

variable {database : Database} {name : String} {table : Table}

theorem checkDepth_eq_ok_iff (condition : Option (Condition Value)) :
    checkDepth condition = .ok () ↔
      ∀ inner ∈ condition, inner.height ≤ DatabaseFault.maximalDepth := by
  cases condition with
  | none => simp [checkDepth]
  | some inner =>
      rw [checkDepth]
      split
      case isTrue deep => simpa using deep
      case isFalse shallow => simpa using shallow

theorem checkParameters_eq_ok_iff (sql : String) :
    checkParameters sql = .ok () ↔ Sql.marks sql ≤ maximalParameters := by
  rw [Sql.marks, ← Condition.excessPlaceholder?_eq_none_iff maximalParameters 0, checkParameters]
  split
  · next offset excess => simp [excess]
  · next none => simp [none]

theorem checkText_eq_ok_iff (sql : String) (condition : Option (Condition Value)) :
    checkText sql condition = .ok () ↔
      (∀ inner ∈ condition, inner.height ≤ DatabaseFault.maximalDepth) ∧
        Sql.marks sql ≤ maximalParameters := by
  rw [← checkDepth_eq_ok_iff, ← checkParameters_eq_ok_iff, checkText, Outcome.bind_eq_ok_iff]
  constructor
  · rintro ⟨_, shallow, few⟩
    exact ⟨shallow, few⟩
  · rintro ⟨shallow, few⟩
    exact ⟨(), shallow, few⟩

theorem checkNames_eq_ok_iff (table : Table) (sql head : String)
    (condition : Option (Condition Value)) :
    checkNames table sql head condition = .ok () ↔
      ∀ inner ∈ condition, ∀ column ∈ inner.columns, (table.source? column).isSome := by
  cases condition with
  | none => simp [checkNames]
  | some inner =>
      simp only [checkNames, Option.mem_some_iff, forall_eq']
      rw [← inner.columnPlaces_columns (head ++ Statement.whereKeyword).utf8ByteSize]
      split
      · next name offset missing =>
          have member := List.mem_of_find?_eq_some missing
          have unknown := List.find?_some missing
          simp only [reduceCtorEq, false_iff]
          intro named
          have known := named name (List.mem_map_of_mem member)
          simp only [Option.isSome_iff_ne_none] at known
          exact known (by simpa using unknown)
      · next complete =>
          simp only [true_iff]
          intro column member
          rcases List.mem_map.mp member with ⟨place, isPlace, rfl⟩
          simpa [Option.isSome_iff_ne_none] using List.find?_eq_none.mp complete place isPlace

/-- The checks that statements have in common, whatever stands before the condition. -/
theorem admits_iff
    (table : Table)
    {name head : String}
    (sameMarks : Sql.marks head = Sql.marks name)
    (condition : Option (Condition Value)) :
    table.Admits name condition ↔
      checkText (Statement.withCondition head condition) condition = .ok () ∧
        checkNames table (Statement.withCondition head condition) head condition = .ok () := by
  rw [checkText_eq_ok_iff, checkNames_eq_ok_iff, Statement.marks_withCondition, sameMarks]
  constructor
  · intro admits
    exact ⟨⟨admits.shallow, admits.few⟩, admits.named⟩
  · rintro ⟨⟨shallow, few⟩, named⟩
    exact ⟨shallow, few, named⟩

/-! ## Tables that are found -/

theorem getTable_eq_ok_iff :
    database.getTable name = .ok table ↔ database.relation? name = some table := by
  rw [getTable]
  split
  · next found => simp [found]
  · next missing => simp [missing]

theorem getOwnTable_eq_ok_iff :
    database.getOwnTable name = .ok table ↔
      database.relation? name = some table ∧ table.isFixed = false := by
  rw [getOwnTable, Outcome.bind_eq_ok_iff]
  constructor
  · rintro ⟨found, isFound, isOwn⟩
    split at isOwn
    · contradiction
    · next notFixed =>
        cases isOwn
        exact ⟨getTable_eq_ok_iff.mp isFound, by simpa using notFixed⟩
  · rintro ⟨isFound, notFixed⟩
    exact ⟨table, getTable_eq_ok_iff.mpr isFound, by simp [notFixed]⟩

/-! ## Reading -/

/-- The rows of a result for rows of a table. -/
def resultOf (table : Table) (rows : List Row) : ResultSet where
  columns := identityColumn table :: table.columns
  rows := rows.map fun row => row.read (identitySource table) :: row.cells

theorem select_eq_ok_iff
    (found : database.getTable name = .ok table)
    (condition : Option (Condition Value))
    (result : ResultSet) :
    database.select name condition = .ok result ↔
      table.Admits name condition ∧ table.columns.length < maximalColumns ∧
        result = resultOf table (table.matching condition) := by
  rw [admits_iff table (Statement.marks_selectHead name) condition]
  simp only [select, Outcome.bind_eq_ok_iff, found]
  constructor
  · rintro ⟨_, textAccepted, table, equal, accepted⟩
    cases equal
    split at accepted
    · contradiction
    · next narrow =>
        rcases Outcome.bind_eq_ok_iff.mp accepted with ⟨_, namesAccepted, equal⟩
        exact ⟨⟨textAccepted, namesAccepted⟩, by omega, (Except.ok.inj equal).symm⟩
  · rintro ⟨⟨textAccepted, namesAccepted⟩, narrow, rfl⟩
    refine ⟨(), textAccepted, table, rfl, ?_⟩
    have notWide : ¬ maximalColumns < table.columns.length + 1 := by omega
    rw [if_neg notWide]
    exact Outcome.bind_eq_ok_iff.mpr ⟨(), namesAccepted, rfl⟩

/-- The id takes a column too, so that a table may be too wide to be read. -/
theorem select_of_wide
    (found : database.getTable name = .ok table)
    {condition : Option (Condition Value)}
    (admits : table.Admits name condition)
    (wide : maximalColumns ≤ table.columns.length) :
    database.select name condition = .error .tooManyResultColumns := by
  have textAccepted : checkText (Statement.select name condition).text condition = .ok () :=
    ((admits_iff table (Statement.marks_selectHead name) condition).mp admits).1
  rw [select, textAccepted, Outcome.ok_bind, found, Outcome.ok_bind, if_pos (by omega)]

theorem count_eq_ok_iff
    (found : database.getTable name = .ok table)
    (condition : Option (Condition Value))
    (number : Nat) :
    database.count name condition = .ok number ↔
      table.Admits name condition ∧ number = (table.matching condition).length := by
  rw [admits_iff table (Statement.marks_countHead name) condition]
  simp only [count, Outcome.bind_eq_ok_iff, found]
  constructor
  · rintro ⟨_, textAccepted, table, equal, _, namesAccepted, counted⟩
    cases equal
    exact ⟨⟨textAccepted, namesAccepted⟩, (Except.ok.inj counted).symm⟩
  · rintro ⟨⟨textAccepted, namesAccepted⟩, rfl⟩
    exact ⟨(), textAccepted, table, rfl, (), namesAccepted, rfl⟩

/-- What is read is read from a table that admits the condition. -/
theorem exists_admits_of_select
    {condition : Option (Condition Value)}
    {result : ResultSet}
    (selects : database.select name condition = .ok result) :
    ∃ table, database.relation? name = some table ∧ table.Admits name condition ∧
      result = resultOf table (table.matching condition) := by
  rcases Outcome.bind_eq_ok_iff.mp selects with ⟨_, _, selectsFrom⟩
  rcases Outcome.bind_eq_ok_iff.mp selectsFrom with ⟨table, found, _⟩
  rcases (select_eq_ok_iff found condition result).mp selects with ⟨admits, _, isResult⟩
  exact ⟨table, getTable_eq_ok_iff.mp found, admits, isResult⟩

theorem exists_admits_of_count
    {condition : Option (Condition Value)}
    {number : Nat}
    (counts : database.count name condition = .ok number) :
    ∃ table, database.relation? name = some table ∧ table.Admits name condition := by
  rcases Outcome.bind_eq_ok_iff.mp counts with ⟨_, _, countsFrom⟩
  rcases Outcome.bind_eq_ok_iff.mp countsFrom with ⟨table, found, _⟩
  exact
    ⟨table, getTable_eq_ok_iff.mp found, ((count_eq_ok_iff found condition number).mp counts).1⟩

/-! ## Removing -/

theorem delete_eq_ok_iff
    (found : database.getOwnTable name = .ok table)
    (condition : Option (Condition Value))
    (result : Nat × Database) :
    database.delete name condition = .ok result ↔
      table.Admits name condition ∧
        result =
          ((table.matching condition).length,
            database.replaceTable { table with rows := table.others condition }) := by
  rw [admits_iff table (Statement.marks_deleteHead name) condition]
  simp only [delete, Outcome.bind_eq_ok_iff, found]
  constructor
  · rintro ⟨_, textAccepted, table, equal, _, namesAccepted, removed⟩
    cases equal
    exact ⟨⟨textAccepted, namesAccepted⟩, (Except.ok.inj removed).symm⟩
  · rintro ⟨⟨textAccepted, namesAccepted⟩, rfl⟩
    exact ⟨(), textAccepted, table, rfl, (), namesAccepted, rfl⟩

/-- What is removed is removed from a table of its own that admits the condition. -/
theorem exists_admits_of_delete
    {condition : Option (Condition Value)}
    {result : Nat × Database}
    (deletes : database.delete name condition = .ok result) :
    ∃ table, database.getOwnTable name = .ok table ∧ table.Admits name condition ∧
      result =
        ((table.matching condition).length,
          database.replaceTable { table with rows := table.others condition }) := by
  rcases Outcome.bind_eq_ok_iff.mp deletes with ⟨_, _, deletesFrom⟩
  rcases Outcome.bind_eq_ok_iff.mp deletesFrom with ⟨table, found, _⟩
  exact ⟨table, found, (delete_eq_ok_iff found condition result).mp deletes⟩

end Database

end RecordStore
