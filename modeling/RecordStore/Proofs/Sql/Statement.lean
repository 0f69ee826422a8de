import RecordStore.Proofs.Sql.Reading
import RecordStore.Sql.Statement.Reader

/-!
# Reading statements back

The texts of the statements that add a row or overwrite one are read as what
they are meant for: each column that is listed belongs to the placeholder, and
so to the parameter, that stands at the same position, and the parameter behind
those for the columns is the id of the row.

Main statements: `Change.bind_insert` and `Change.bind_update`.
-/

namespace RecordStore.Sql

open Condition (Lexeme placeholderLexemes)
open Condition.Lexeme (IsColumn keyword)

/-! ## Lexemes of lists -/

/-- In front of a character that belongs to no word, a text is read as some lexemes. -/
def Condition.Lexeme.Spells (text : String) (lexemes : List Lexeme) : Prop :=
  ∀ rest : List Char, rest.head?.any Lexeme.isWord = false →
    Lexeme.read (text.toList ++ rest) = (Lexeme.read rest).map (lexemes ++ ·)

/-- A column that is set to a placeholder. -/
def settingLexemes (name : String) : List Lexeme :=
  [.word name.toList, .comparison .equal, .placeholder]

theorem spells_name {name : String} (isColumn : IsColumn name) :
    Lexeme.Spells name [.word name.toList] :=
  fun _ separated => Lexeme.read_word isColumn.nonempty isColumn.areWord separated

theorem spells_setting {name : String} (isColumn : IsColumn name) :
    Lexeme.Spells (name ++ " = ?") (settingLexemes name) := by
  intro rest _
  have spelled :
      (name ++ " = ?").toList ++ rest = name.toList ++ ' ' :: '=' :: ' ' :: '?' :: rest := by
    simp
  rw [spelled, Lexeme.read_word isColumn.nonempty isColumn.areWord rfl]
  simp [Lexeme.read, settingLexemes, Function.comp_def]

/-- A list is read item by item, with commas between the items. -/
theorem spells_listNames
    {α : Type}
    (text : α → String)
    {lexemes : α → List Lexeme}
    {items : List α}
    (each : ∀ item ∈ items, Lexeme.Spells (text item) (lexemes item)) :
    Lexeme.Spells (Statement.listNames (items.map text))
      ([Lexeme.comma].intercalate (items.map lexemes)) := by
  intro rest separated
  induction items with
  | nil => simp [Statement.listNames]
  | cons first others induction =>
      rcases List.forall_mem_cons.mp each with ⟨firstSpells, othersSpell⟩
      cases others with
      | nil => simpa [Statement.listNames] using firstSpells rest separated
      | cons second more =>
          have spelled :
              (Statement.listNames ((first :: second :: more).map text)).toList ++ rest =
                (text first).toList ++ ',' :: ' ' ::
                  ((Statement.listNames ((second :: more).map text)).toList ++ rest) := by
            simp [Statement.listNames, String.intercalate_cons_cons]
          rw [spelled, firstSpells _ rfl, Lexeme.read, Lexeme.read, induction othersSpell,
            Option.map_map, Option.map_map]
          congr 1
          funext others
          simp [List.intercalate]

theorem spells_names {names : List String} (areColumns : ∀ name ∈ names, IsColumn name) :
    Lexeme.Spells (Statement.listNames names)
      ([Lexeme.comma].intercalate (names.map fun name => [.word name.toList])) := by
  have listed :=
    spells_listNames id fun name member => spells_name (areColumns name member)
  rwa [List.map_id] at listed

/-! ## Reading lists -/

namespace Change

theorem readNames_list
    {names : List String}
    (areColumns : ∀ name ∈ names, IsColumn name)
    (hasName : names ≠ [])
    (rest : List Lexeme) :
    readNames
        ([Lexeme.comma].intercalate (names.map fun name => [.word name.toList]) ++
          .closing :: rest) =
      some (names, rest) := by
  induction names with
  | nil => exact absurd rfl hasName
  | cons first others induction =>
      rcases List.forall_mem_cons.mp areColumns with ⟨firstNamed, othersNamed⟩
      cases others with
      | nil => simp [List.intercalate, readNames, firstNamed.isName]
      | cons second more =>
          have tail := induction othersNamed (List.cons_ne_nil second more)
          simp only [List.intercalate, List.map_cons, List.intersperse_cons_cons, List.flatten_cons,
            List.cons_append, List.nil_append] at tail ⊢
          rw [readNames, if_pos firstNamed.isName, tail]
          simp

theorem readAssignments_list
    {names : List String}
    (areColumns : ∀ name ∈ names, IsColumn name)
    (hasName : names ≠ [])
    (rest : List Lexeme) :
    readAssignments
        ([Lexeme.comma].intercalate (names.map settingLexemes) ++ keyword "WHERE" :: rest) =
      some (names.map fun name => (name, ()), keyword "WHERE" :: rest) := by
  induction names with
  | nil => exact absurd rfl hasName
  | cons first others induction =>
      rcases List.forall_mem_cons.mp areColumns with ⟨firstNamed, othersNamed⟩
      cases others with
      | nil =>
          simp [List.intercalate, settingLexemes, readAssignments, keyword, firstNamed.isName]
      | cons second more =>
          have tail := induction othersNamed (List.cons_ne_nil second more)
          simp only [List.intercalate, List.map_cons, List.intersperse_cons_cons,
            List.flatten_cons, List.cons_append, List.nil_append, settingLexemes] at tail ⊢
          rw [readAssignments, if_pos firstNamed.isName, tail]
          simp

/-! ## New rows -/

variable {α : Type} {table : String} {assignments : List (String × α)}

theorem readLexemes_insert (isTable : IsColumn table) (rest : List Lexeme) :
    readLexemes (keyword "INSERT" :: keyword "INTO" :: .word table.toList :: rest) =
      readRow table rest := by
  simp [readLexemes, keyword, isTable.isName]

theorem readRow_list
    {names : List String}
    (areColumns : ∀ name ∈ names, IsColumn name)
    (hasName : names ≠ [])
    (count : Nat) :
    readRow table
        (.opening ::
          ([Lexeme.comma].intercalate (names.map fun name => [.word name.toList]) ++
            .closing :: keyword "VALUES" :: .opening ::
              (placeholderLexemes (count + 1) ++ [.closing]))) =
      some (.insert table names (List.replicate (count + 1) ())) := by
  simp [readRow, readNames_list areColumns hasName, Condition.readMembers_placeholders count []]

/-- What stands before the columns of a new row. -/
theorem read_insertHead (isTable : IsColumn table) (rest : List Char) :
    Lexeme.read ("INSERT INTO ".toList ++ (table.toList ++ ' ' :: rest)) =
      (Lexeme.read rest).map
        ([keyword "INSERT", keyword "INTO", .word table.toList] ++ ·) := by
  have spelled :
      "INSERT INTO ".toList ++ (table.toList ++ ' ' :: rest) =
        "INSERT".toList ++ ' ' :: ("INTO".toList ++ ' ' :: (table.toList ++ ' ' :: rest)) := rfl
  rw [spelled, Lexeme.read_word (by decide) (by decide) rfl,
    Lexeme.read_keyword (by decide) (by decide) rfl, Lexeme.read,
    Lexeme.read_word isTable.nonempty isTable.areWord rfl, Lexeme.read, Option.map_map,
    Option.map_map]
  rfl

/-- The terminator is not part of what is read. -/
theorem read?_terminated
    {text : String}
    {body : List Char}
    (terminated : text.toList = body ++ [';']) :
    read? text = (Lexeme.read body).bind readLexemes := by
  simp only [read?, terminated, List.getLast?_concat, List.dropLast_concat]

/-- The text of a statement that adds an empty row lists nothing. -/
theorem read?_insert_nothing (isTable : IsColumn table) :
    read? (Statement.insert table ([] : List (String × α))).text =
      some (.insert table [] []) := by
  have written :
      (Statement.insert table ([] : List (String × α))).text =
        "INSERT INTO " ++ table ++ " DEFAULT VALUES;" := rfl
  have spelled :
      (Statement.insert table ([] : List (String × α))).text.toList =
        ("INSERT INTO ".toList ++ (table.toList ++ ' ' :: "DEFAULT VALUES".toList)) ++ [';'] := by
    rw [written]
    simp
  have finish :
      Lexeme.read "DEFAULT VALUES".toList = some [keyword "DEFAULT", keyword "VALUES"] := by
    decide
  rw [read?_terminated spelled, read_insertHead isTable, finish]
  exact readLexemes_insert isTable _

/-- The text of a statement that adds a row lists its columns, with a placeholder for each. -/
theorem read?_insert
    (isTable : IsColumn table)
    (areColumns : ∀ entry ∈ assignments, IsColumn entry.1) :
    read? (Statement.insert table assignments).text =
      some
        (.insert table (assignments.map Prod.fst) (List.replicate assignments.length ())) := by
  cases assignments with
  | nil => exact read?_insert_nothing isTable
  | cons first rest =>
      have written :
          (Statement.insert table (first :: rest)).text =
            "INSERT INTO " ++ table ++ " (" ++
              Statement.listNames ((first :: rest).map Prod.fst) ++ ") VALUES (" ++
                String.ofList (Condition.placeholders ((first :: rest).map Prod.fst).length) ++
                  ");" := rfl
      have spelled :
          (Statement.insert table (first :: rest)).text.toList =
            ("INSERT INTO ".toList ++ (table.toList ++ ' ' :: '(' ::
              ((Statement.listNames ((first :: rest).map Prod.fst)).toList ++ ')' :: ' ' ::
                ("VALUES".toList ++ ' ' :: '(' ::
                  (Condition.placeholders (rest.length + 1) ++ [')']))))) ++ [';'] := by
        rw [written]
        simp
      have listed : ∀ name ∈ (first :: rest).map Prod.fst, IsColumn name := by
        intro name member
        rcases List.mem_map.mp member with ⟨entry, isEntry, rfl⟩
        exact areColumns entry isEntry
      rw [read?_terminated spelled, read_insertHead isTable, Lexeme.read,
        spells_names listed _ rfl,
        Lexeme.read, Lexeme.read_keyword (by decide) (by decide) rfl, Lexeme.read, Lexeme.read,
        Condition.read_placeholders, Lexeme.read, Lexeme.read]
      simp only [Option.map_some, Option.bind_some, List.cons_append, List.nil_append]
      rw [readLexemes_insert isTable, readRow_list listed (List.cons_ne_nil _ _)]
      rfl

/-! ## Overwritten rows -/

theorem readLexemes_update (isTable : IsColumn table) (rest : List Lexeme) :
    readLexemes (keyword "UPDATE" :: .word table.toList :: keyword "SET" :: rest) =
      readSettings table rest := by
  simp [readLexemes, keyword, isTable.isName]

theorem isColumn_rowIdName : IsColumn Field.rowIdName :=
  ⟨by decide +kernel, by decide⟩

/-- The condition that names the row under an id. -/
theorem readSum_identity :
    Condition.readSum 20
        [.word Field.rowIdName.toList, .comparison .equal, .placeholder] =
      some (.compare Field.rowIdName .equal (), []) := by
  have legible :
      Condition.Legible .sum (Condition.compare Field.rowIdName .equal ()) :=
    .product (.factor (.compare isColumn_rowIdName))
  exact legible.readBack.readSum_eq 20 [] (by decide) (by simp) (by simp)

theorem readSettings_list
    (table : String)
    {names : List String}
    (areColumns : ∀ name ∈ names, IsColumn name)
    (hasName : names ≠ []) :
    readSettings table
        ([Lexeme.comma].intercalate (names.map settingLexemes) ++
          [keyword "WHERE", .word Field.rowIdName.toList, .comparison .equal, .placeholder]) =
      some
        (.update table (names.map fun name => (name, ())) (.compare Field.rowIdName .equal ())) := by
  simp [readSettings, readAssignments_list areColumns hasName, readSum_identity]

/-- The text of a statement that overwrites a row sets its columns, each to a placeholder. -/
theorem read?_update
    (isTable : IsColumn table)
    (areColumns : ∀ entry ∈ assignments, IsColumn entry.1)
    (hasColumn : assignments ≠ [])
    (id : α) :
    read? (Statement.update table assignments id).text =
      some
        (.update table (assignments.map fun entry => (entry.1, ()))
          (.compare Field.rowIdName .equal ())) := by
  have written :
      (Statement.update table assignments id).text =
        "UPDATE " ++ table ++ " SET " ++
          Statement.listNames (assignments.map fun entry => entry.1 ++ " = ?") ++ " WHERE " ++
            Field.rowIdName ++ " = ?;" := rfl
  have spelled :
      (Statement.update table assignments id).text.toList =
        ("UPDATE".toList ++ ' ' :: (table.toList ++ ' ' :: ("SET".toList ++ ' ' ::
          ((Statement.listNames (assignments.map fun entry => entry.1 ++ " = ?")).toList ++ ' ' ::
            ("WHERE".toList ++ ' ' :: (Field.rowIdName ++ " = ?").toList))))) ++ [';'] := by
    rw [written]
    simp
  have identity := spells_setting isColumn_rowIdName [] rfl
  have settings :=
    spells_listNames (fun entry : String × α => entry.1 ++ " = ?") fun entry member =>
      spells_setting (areColumns entry member)
  rw [List.append_nil] at identity
  rw [read?_terminated spelled, Lexeme.read_word (by decide) (by decide) rfl, Lexeme.read,
    Lexeme.read_word isTable.nonempty isTable.areWord rfl,
    Lexeme.read_keyword (by decide) (by decide) rfl, Lexeme.read, settings _ rfl,
    Lexeme.read_keyword (by decide) (by decide) rfl, Lexeme.read, identity]
  have listed : ∀ name ∈ assignments.map Prod.fst, IsColumn name := by
    intro name member
    rcases List.mem_map.mp member with ⟨entry, isEntry, rfl⟩
    exact areColumns entry isEntry
  have settled :=
    readSettings_list table listed (by simpa using hasColumn)
  simp only [List.map_map, Function.comp_def] at settled
  simp only [Lexeme.read, settingLexemes, Option.map_some, Option.bind_some, List.cons_append,
    List.nil_append] at settled ⊢
  exact (readLexemes_update isTable _).trans settled

/-! ## Bound parameters -/

/-- Further parameters make no difference to the columns, which come first. -/
theorem zip_extended (entries : List (String × α)) (others : List α) :
    (entries.map fun entry => entry.1).zip (entries.map Prod.snd ++ others) = entries := by
  induction entries with
  | nil => rfl
  | cons first rest induction => simpa using induction

/-- Columns take the parameters in order, each its own one. -/
theorem bind_insert
    (isTable : IsColumn table)
    (areColumns : ∀ entry ∈ assignments, IsColumn entry.1) :
    (read? (Statement.insert table assignments).text).bind
        (bind? · (Statement.insert table assignments).parameters) =
      some (.insert table (assignments.map Prod.fst) (assignments.map Prod.snd)) := by
  simp [read?_insert isTable areColumns, bind?, Statement.parameters]

/-- Columns take the parameters in order, each its own one, and the id takes the last one. -/
theorem bind_update
    (isTable : IsColumn table)
    (areColumns : ∀ entry ∈ assignments, IsColumn entry.1)
    (hasColumn : assignments ≠ [])
    (id : α) :
    (read? (Statement.update table assignments id).text).bind
        (bind? · (Statement.update table assignments id).parameters) =
      some (.update table assignments (.compare Field.rowIdName .equal id)) := by
  have taken :
      (Condition.compare Field.rowIdName .equal ()).bind? [id] =
        some (.compare Field.rowIdName .equal id) := rfl
  simp only [read?_update isTable areColumns hasColumn, Option.bind_some, bind?,
    Statement.parameters, List.length_map, List.length_append, Nat.le_add_right, if_pos,
    List.drop_left', taken, Option.map_some, List.map_map, Function.comp_def, zip_extended]

end Change

end RecordStore.Sql
