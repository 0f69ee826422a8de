import RecordStore.CommandLine.Run
import RecordStore.Proofs.Storage.Lifetime

/-!
# What a run does to databases

A command opens a storage, works on it by stages and closes it again.  The
databases in files are then as they were, but for the one of the storage: it
holds what the storage has committed.  If the storage cannot be opened, no
database in a file has changed.

Nobody stays connected who was not connected before, and nothing stays locked
that was not locked before.

Main statements: `CommandLine.Context.failsToOpen_of_openStorage`,
`CommandLine.Context.database_withStorage` and `CommandLine.Context.atRest_withStorage`.
-/

namespace RecordStore

/-! ## Working by stages -/

namespace Storage

/-- An operation works by stages: what every stage keeps is kept by it. -/
def WorksByStages {α : Type} (operation : Storage → α × Storage) : Prop :=
  ∀ motive : Storage → Prop,
    (∀ before stage, Step before stage → motive before → motive stage.storage) →
      ∀ storage, motive storage → motive (operation storage).2

theorem WorksByStages.continues
    {α : Type}
    {operation : Storage → α × Storage}
    (staged : WorksByStages operation)
    (storage : Storage) :
    Continues storage (operation storage).2 :=
  staged (Continues storage) (fun _ _ step continues => continues.trans step.continues) storage
    (.refl storage)

theorem worksByStages_putMany (records : List Record) :
    WorksByStages fun storage => storage.putMany records :=
  fun _ kept _ holds => perform_induction kept holds (.putMany records)

theorem worksByStages_delete (filter : Filter) :
    WorksByStages fun storage => storage.delete filter :=
  fun _ kept _ holds => perform_induction kept holds (.delete filter)

theorem worksByStages_deleteAll : WorksByStages deleteAll :=
  fun _ kept _ holds => perform_induction kept holds .deleteAll

theorem worksByStages_commit : WorksByStages commit :=
  fun _ kept _ holds => perform_induction kept holds .commit

end Storage

/-! ## Files at rest -/

/-- Nobody uses the file at a place, and the disk is not full. -/
structure Workspace.IsAtRest (workspace : Workspace) (place : Path.Place) : Prop where
  nobody : workspace.share? place = none
  unlocked : ∀ hold ∈ workspace.holds, hold.place ≠ place
  hasSpace : workspace.isFull = false

/-- No more is locked in a workspace than in another one, and the disk is as full. -/
structure Workspace.LocksNoMore (before after : Workspace) : Prop where
  holds_subset : after.holds ⊆ before.holds
  isFull_eq : after.isFull = before.isFull

namespace Workspace.LocksNoMore

variable {first second third : Workspace}

theorem refl (workspace : Workspace) : LocksNoMore workspace workspace :=
  ⟨List.Subset.refl _, rfl⟩

theorem trans (left : LocksNoMore first second) (right : LocksNoMore second third) :
    LocksNoMore first third :=
  ⟨fun _ member => left.holds_subset (right.holds_subset member),
    right.isFull_eq.trans left.isFull_eq⟩

theorem disconnect (workspace : Workspace) (connection : Connection) :
    LocksNoMore workspace (workspace.disconnect connection) := by
  rw [disconnect_eq_known]
  exact ⟨List.Subset.refl _, rfl⟩

/-- A file at rest stays so, where nobody connects and nothing is locked. -/
theorem atRest
    (locks : LocksNoMore first second)
    {place : Path.Place}
    (atRest : first.IsAtRest place)
    (nobody : second.share? place = none) :
    second.IsAtRest place :=
  ⟨nobody, fun hold member => atRest.unlocked hold (locks.holds_subset member),
    locks.isFull_eq.trans atRest.hasSpace⟩

end Workspace.LocksNoMore

namespace Storage

open Workspace (LocksNoMore)

variable {workspace after : Workspace}

theorem locksNoMore_of_connect
    {location : Location}
    {result : Except Error Connection}
    (connects : connect workspace location = (result, after)) :
    LocksNoMore workspace after := by
  rcases exists_connect_eq workspace location with ⟨reached, fills, ⟨error, fails⟩ | tries⟩
  · cases fails.symm.trans connects
    exact ⟨fills.holds_eq ▸ List.Subset.refl _, fills.isFull_eq⟩
  · have isAfter := congrArg Prod.snd (tries.symm.trans connects)
    rcases opens : reached.connect location.database with ⟨fault | connection, opened⟩
    · rw [opens] at isAfter
      rw [← show opened = after from isAfter, Workspace.eq_of_connect_eq_error opens]
      exact ⟨fills.holds_eq ▸ List.Subset.refl _, fills.isFull_eq⟩
    · rw [opens] at isAfter
      rcases Workspace.holds_connect opens with ⟨sameHolds, sameSpace⟩
      rw [← show opened = after from isAfter]
      exact
        ⟨(sameHolds.trans fills.holds_eq) ▸ List.Subset.refl _, sameSpace.trans fills.isFull_eq⟩

theorem FailsToOpen.locksNoMore (fails : FailsToOpen workspace after) :
    LocksNoMore workspace after := by
  cases fails with
  | refused => exact .refl _
  | unconnected fails => exact locksNoMore_of_connect fails
  | disconnected connects => exact (locksNoMore_of_connect connects).trans (.disconnect _ _)

/-- A new storage has locked nothing. -/
theorem locksNoMore_of_opens
    {storage : Storage}
    (opens : Session.Opens workspace ⟨storage, after⟩) :
    LocksNoMore workspace after ∧ storage.lock? = none := by
  have unlocked : storage.lock? = none := by
    rcases Session.exists_opened_of_opens opens with ⟨_, _, _, _, _, _, _, isStorage⟩
    rw [show storage = _ from isStorage]
    rfl
  refine ⟨?_, unlocked⟩
  rcases opens with ⟨schema, text, policy, opens⟩ | ⟨text, policy, opens⟩
  · rcases of_openTable opens with
      ⟨_, _, connection, made, database, _, connects, _, _, isWorkspace⟩
    have isWorkspace : after = made.save connection database := isWorkspace
    rw [isWorkspace, Workspace.save_eq_entries]
    have locks := locksNoMore_of_connect connects
    exact ⟨locks.holds_subset, locks.isFull_eq⟩
  · rcases of_openExisting opens with ⟨_, _, _, _, _, _, connects, _, _, _⟩
    exact locksNoMore_of_connect connects

/-- A storage that has worked and is closed has given up what it has locked. -/
theorem locksNoMore_disconnect
    {storage last : Storage}
    (unlocked : storage.lock? = none)
    (workspace : Workspace) :
    LocksNoMore workspace (last.disconnect (last.save workspace storage)) := by
  let saved := last.save workspace storage
  let closed := (last.refresh saved).close
  have isSaved : saved = { workspace with
      entries := saved.entries
      shares := saved.shares
      holds := saved.holds } :=
    last.save_eq_known workspace storage
  have isClosed := closed.save_eq_known saved (last.refresh saved)
  refine .trans ?_ (.disconnect _ _)
  constructor
  · rcases last.exists_exchange_of_save workspace storage with ⟨taking, sameHolds, takes⟩
    rcases closed.exists_exchange_of_save saved (last.refresh saved) with ⟨giving, sameToo, gives⟩
    have isTaken : saved.holds = (workspace.exchange last.connection none last.lock?).holds := by
      rw [show saved = _ from takes, unlocked]
      exact Workspace.holds_exchange_congr sameHolds
    have isGiven :
        (closed.save saved (last.refresh saved)).holds =
          (saved.exchange last.connection last.lock? none).holds := by
      rw [gives]
      exact Workspace.holds_exchange_congr sameToo
    exact Workspace.holds_exchange_subset isTaken isGiven
  · show (closed.save saved (last.refresh saved)).isFull = workspace.isFull
    rw [isClosed]
    show saved.isFull = workspace.isFull
    rw [isSaved]

end Storage

namespace CommandLine

open Storage (WorksByStages)

theorem worksByStages_reading {α : Type} (operation : Storage → α) :
    WorksByStages (reading operation) :=
  fun _ _ _ holds => holds

theorem worksByStages_putRecords (records : List Record) :
    WorksByStages (putRecords records) := by
  intro motive kept storage holds
  have stored := Storage.worksByStages_putMany records motive kept storage holds
  rw [putRecords]
  dsimp only at stored
  split
  · next puts =>
      rw [puts] at stored
      exact stored
  · next puts =>
      rw [puts] at stored
      exact Storage.worksByStages_commit motive kept _ stored

theorem worksByStages_remove (filter : Option String) : WorksByStages (remove filter) := by
  intro motive kept storage holds
  rw [remove.eq_def]
  split
  · exact Storage.worksByStages_deleteAll motive kept storage holds
  · split
    · exact holds
    · exact Storage.worksByStages_delete _ motive kept storage holds

theorem worksByStages_deleteRecords (filter : Option String) :
    WorksByStages (deleteRecords filter) := by
  intro motive kept storage holds
  have removed := worksByStages_remove filter motive kept storage holds
  rw [deleteRecords]
  split
  · next removes =>
      rw [removes] at removed
      exact removed
  · next removes =>
      rw [removes] at removed
      exact Storage.worksByStages_commit motive kept _ removed

namespace Context

variable
    {context : Context}
    {workspace opened : Workspace}
    {fields : Option String}
    {policy : Option AutoCommit}
    {storage : Storage}
    {place : Path.Place}

/-! ## The storage of a command -/

/-- A storage that a command opens is a new one at the location that is given. -/
theorem of_openStorage
    (opens : context.openStorage workspace fields policy = (.ok storage, opened)) :
    Session.Opens workspace ⟨storage, opened⟩ ∧
      storage.policy = policy.getD context.settings.policy ∧
        ∃ uri address,
          context.location = .ok uri ∧ Location.parse uri = .ok storage.location ∧
            Address.read storage.location.database = .ok address ∧
              storage.connection.place = address.home.place? := by
  rw [openStorage] at opens
  split at opens
  · cases opens
  · cases opens
  · next uri schema isLocation _ =>
      rcases Storage.of_openTable opens with
        ⟨location, _, _, _, _, parsed, connects, _, isStorage, _⟩
      rcases Storage.place_of_connect connects with ⟨address, isAddress, isPlace⟩
      refine ⟨.inl ⟨schema, uri, _, opens⟩, ?_⟩
      rw [isStorage]
      exact ⟨rfl, uri, address, isLocation, parsed, isAddress, isPlace⟩
  · next uri isLocation _ =>
      rcases Storage.of_openExisting opens with
        ⟨location, _, _, _, _, parsed, connects, _, _, isStorage⟩
      rcases Storage.place_of_connect connects with ⟨address, isAddress, isPlace⟩
      refine ⟨.inr ⟨uri, _, opens⟩, ?_⟩
      rw [isStorage]
      exact ⟨rfl, uri, address, isLocation, parsed, isAddress, isPlace⟩

/-- If no storage can be opened, this was refused, or nothing but a connection was opened. -/
theorem failsToOpen_of_openStorage
    {error : Error}
    (fails : context.openStorage workspace fields policy = (.error error, opened)) :
    Storage.FailsToOpen workspace opened := by
  rw [openStorage] at fails
  split at fails
  · cases fails
    exact .refused
  · cases fails
    exact .refused
  · exact Storage.failsToOpen_of_openTable fails
  · exact Storage.failsToOpen_of_openExisting fails

theorem withStorage_of_error
    {α : Type}
    {error : Error}
    (fails : context.openStorage workspace fields policy = (.error error, opened))
    (operation : Storage → Except Error α × Storage) :
    context.withStorage workspace fields policy operation = (.error error, opened) := by
  rw [withStorage, fails]

theorem withStorage_of_ok
    {α : Type}
    (opens : context.openStorage workspace fields policy = (.ok storage, opened))
    (operation : Storage → Except Error α × Storage) :
    context.withStorage workspace fields policy operation =
      ((operation (storage.refresh opened)).1,
        (operation (storage.refresh opened)).2.disconnect
          ((operation (storage.refresh opened)).2.save opened storage)) := by
  rw [withStorage, opens]
  rfl

/-- A command leaves in the file of its storage what the storage has committed. -/
theorem database_withStorage
    {α : Type}
    (opens : context.openStorage workspace fields policy = (.ok storage, opened))
    {operation : Storage → Except Error α × Storage}
    (staged : WorksByStages operation)
    (onDisk : Path.isInMemory place = false) :
    (context.withStorage workspace fields policy operation).2.database place =
      if storage.connection.place = some place then
        .ok (operation (storage.refresh opened)).2.committed
      else
        workspace.database place := by
  have begins := (of_openStorage opens).1
  have settled := Session.settled_of_opens begins
  let session : Session := ⟨storage, opened⟩
  have leads : session.Leads (operation session.current).2 :=
    staged session.Leads (fun _ _ step leads => leads.step step) session.current settled.leads
  have sameConnection : (operation session.current).2.connection = storage.connection :=
    leads.connection_eq
  rw [withStorage_of_ok opens]
  refine (Storage.database_disconnect _ _ onDisk).trans ?_
  split
  · next isPlace => exact (leads.settled settled).holds place (sameConnection ▸ isPlace)
  · next elsewhere =>
      have isFilePlace (own : Path.Place)
          (isPlace : (operation session.current).2.connection.place = some own) :
          Path.IsFilePlace own :=
        settled.isFilePlace own (sameConnection ▸ isPlace)
      refine (Storage.database_save _ _ _ place).trans ?_
      refine (Workspace.database_save_eq_ite isFilePlace _ place).trans ?_
      rw [if_neg fun same => elsewhere (sameConnection ▸ same.1)]
      exact Storage.database_of_opens begins elsewhere

/-- Where nobody was connected, nobody is connected after a command. -/
theorem share?_withStorage
    {α : Type}
    {operation : Storage → Except Error α × Storage}
    (staged : WorksByStages operation)
    (nobody : workspace.share? place = none) :
    (context.withStorage workspace fields policy operation).2.share? place = none := by
  rcases opens : context.openStorage workspace fields policy with ⟨error | storage, opened⟩
  · rw [withStorage_of_error opens]
    exact (failsToOpen_of_openStorage opens).share?_eq_none nobody
  · have alone := Storage.isAlone_of_opens (of_openStorage opens).1 nobody
    have sameConnection :
        (operation (storage.refresh opened)).2.connection = storage.connection :=
      (staged.continues (storage.refresh opened)).connection_eq
    rw [withStorage_of_ok opens]
    apply Storage.share?_disconnect
    have saved :=
      Storage.isAlone_save (operation (storage.refresh opened)).2 (sameConnection ▸ alone) storage
    exact saved

theorem locksNoMore_withStorage
    {α : Type}
    (operation : Storage → Except Error α × Storage) :
    workspace.LocksNoMore (context.withStorage workspace fields policy operation).2 := by
  rcases opens : context.openStorage workspace fields policy with ⟨error | storage, opened⟩
  · rw [withStorage_of_error opens]
    exact (failsToOpen_of_openStorage opens).locksNoMore
  · rcases Storage.locksNoMore_of_opens (of_openStorage opens).1 with ⟨locks, unlocked⟩
    rw [withStorage_of_ok opens]
    exact locks.trans (Storage.locksNoMore_disconnect unlocked opened)

/-- A file at rest is at rest after a command. -/
theorem atRest_withStorage
    {α : Type}
    {operation : Storage → Except Error α × Storage}
    (staged : WorksByStages operation)
    (atRest : workspace.IsAtRest place) :
    (context.withStorage workspace fields policy operation).2.IsAtRest place :=
  (locksNoMore_withStorage operation).atRest atRest (share?_withStorage staged atRest.nobody)

end Context

/-! ## Running a request -/

theorem run_of_read
    {arguments : List String}
    {request : Request}
    (asked : Request.read arguments = .ok request)
    (input : String)
    (workspace : Workspace) :
    run arguments input workspace =
      (.ofResult (request.run input workspace).1, (request.run input workspace).2) := by
  rw [run, asked]

theorem Request.run_of_discover
    {request : Request}
    {workspace : Workspace}
    {settings : Settings}
    (discovers : Settings.discover workspace request.settings Path.here = .ok settings)
    (input : String) :
    request.run input workspace = perform ⟨request.uri, settings⟩ workspace input request.task := by
  rw [run, discovers]

section Put

variable
    {context : Context}
    {workspace : Workspace}
    {input : String}
    {fields : Option String}
    {policy : Option AutoCommit}
    {texts : List String}

theorem perform_put_of_error
    {error : Error}
    (fails : readRecords (if texts.isEmpty then filledLines input else texts) = .error error) :
    perform context workspace input (.put fields policy texts) = (.error error, workspace) := by
  rw [perform, fails]

theorem perform_put_of_ok
    {records : List Record}
    (reads : readRecords (if texts.isEmpty then filledLines input else texts) = .ok records) :
    perform context workspace input (.put fields policy texts) =
      context.withStorage workspace fields policy (putRecords records) := by
  rw [perform, reads]

end Put

end CommandLine

end RecordStore
