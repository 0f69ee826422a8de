import RecordStore.Storage.Session
import RecordStore.Workspace.Way

/-!
# Scenes

A scene is a workspace with all storages that are open in it.  Storages are
opened at any locations, asked for operations and closed, in any order and as
often as one likes, and others change the workspace in between.

Through all of this a table may be left in peace: nobody changes the way to its
file, or takes its columns away.  Those who open the table by its own location,
and those who use its database, need no such promise.  While somebody has
written into the file without committing, nobody else can begin to read it.
-/

namespace RecordStore

/-- The table with a name has some columns. -/
def Database.HasColumns (database : Database) (name : String) (columns : List String) : Prop :=
  (database.table? name).map Table.columns = some columns

/-- A workspace and the storages that are open in it. -/
structure Scene where
  workspace : Workspace
  storages : List Storage

namespace Scene

open Storage (Operation)

/-- What is done with storages. -/
inductive Act where
  | provide (schema : Schema) (text : String) (policy : AutoCommit)
  | reopen (text : String) (policy : AutoCommit)
  | ask (index : Nat) (operation : Operation)
  | close (index : Nat)

/-- The scene after a storage was opened, or could not be opened. -/
def opening (scene : Scene) (result : Except Error Storage × Workspace) : Scene :=
  ⟨result.2, scene.storages ++ result.1.toOption.toList⟩

/-- The scene after something was done with storages. -/
def act (scene : Scene) : Act → Scene
  | .provide schema text policy =>
      scene.opening (Storage.openTable scene.workspace schema text policy)
  | .reopen text policy => scene.opening (Storage.openExisting scene.workspace text policy)
  | .ask index operation =>
      match scene.storages[index]? with
      | none => scene
      | some storage =>
          let (_, after, workspace) :=
            storage.run scene.workspace fun storage => storage.perform operation
          ⟨workspace, scene.storages.set index after⟩
  | .close index =>
      match scene.storages[index]? with
      | none => scene
      | some storage => ⟨storage.disconnect scene.workspace, scene.storages.eraseIdx index⟩

/-- A table is opened by its location, or a storage is used whose database is at its place. -/
def Act.IsAt (act : Act) (scene : Scene) (location : Location) (place : Path.Place) : Prop :=
  match act with
  | .provide _ text _ => Location.parse text = .ok location
  | .reopen text _ => Location.parse text = .ok location
  | .ask index _ =>
      ∃ storage, scene.storages[index]? = some storage ∧ storage.connection.place = some place
  | .close index =>
      ∃ storage, scene.storages[index]? = some storage ∧ storage.connection.place = some place

/--
A table that was missing is created for a schema, in a file at a place, while
no storage is in the middle of changing the database.
-/
structure Creates
    (scene : Scene)
    (schema : Schema)
    (text : String)
    (policy : AutoCommit)
    (location : Location)
    (place : Path.Place) :
    Prop where
  parsed : Location.parse text = .ok location
  lacks : scene.workspace.LacksTable text
  opens :
    ∃ storage, (Storage.openTable scene.workspace schema text policy).1 = .ok storage ∧
      storage.connection.place = some place
  onDisk : Path.isInMemory place = false
  isQuiet :
    ∀ storage ∈ scene.storages, storage.connection.place = some place → storage.isWriting = false

/-- What happens while a table, which has some columns in the file at a place, is left in peace. -/
inductive Step (location : Location) (place : Path.Place) (columns : List String) :
    Scene → Scene → Prop where
  | acted
      {scene : Scene}
      (act : Act)
      (isPeaceful :
        act.IsAt scene location place ∨
          scene.workspace.LeavesWay (scene.act act).workspace location place) :
      Step location place columns scene (scene.act act)
  | changed
      {scene : Scene}
      {workspace : Workspace}
      {database : Database}
      (leavesWay : scene.workspace.LeavesWay workspace location place)
      (holds : workspace.database place = .ok database)
      (hasColumns : database.HasColumns location.table columns) :
      Step location place columns scene ⟨workspace, scene.storages⟩

end Scene

end RecordStore
