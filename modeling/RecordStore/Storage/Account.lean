import RecordStore.Storage.Session

/-!
# Accounts of what was stored and committed

An operation goes through stages, each of which leaves a storage behind:
storing several records has one stage for every record and an empty one at
its end, and any other operation is a single stage.  An account follows the stages and says what is
owed to the outside: how many records were stored since the last commit
point, and what the storage saw at that point.  Commit points are the opening,
every commit that was asked for, and every record stored at which the policy
asks for a commit.

A commit can fail.  A record whose own commit fails is stored and counted
nevertheless, although its put fails.
-/

namespace RecordStore

/--
What a stage of a session has done.  A record is unsettled if it was stored
and the commit for it has failed, and a transaction is lost if a failure has
ended it.
-/
inductive Event where
  | opened
  | stored
  | unsettled
  | committed
  | passed
  | lost
  deriving DecidableEq, Repr

/-- A stage of an operation: what it has done, and the storage after it. -/
structure Stage where
  event : Event
  storage : Storage
  deriving DecidableEq, Repr

namespace Storage

/-- The stage that stores and commits nothing and leaves a storage behind. -/
def passing (before after : Storage) : Stage :=
  ⟨if before.isUncommitted && !after.isUncommitted then .lost else .passed, after⟩

/-- The stage of storing a record. -/
def putStage (storage : Storage) (record : Record) : Stage :=
  match storage.enter record with
  | (.error _, after) => storage.passing after
  | (.ok _, entered) =>
      match entered.countPut with
      | (.ok _, after) => ⟨.stored, after⟩
      | (.error _, after) => ⟨.unsettled, after⟩

/-- The stages of storing records one after the other, up to the first that fails. -/
def putStages (storage : Storage) : List Record → List Stage
  | [] => [⟨.passed, storage⟩]
  | record :: rest =>
      let stage := storage.putStage record
      if stage.event = .stored then stage :: stage.storage.putStages rest else [stage]

/-- The stages of an operation. -/
def stages (storage : Storage) (operation : Operation) : List Stage :=
  match operation with
  | .put record => [storage.putStage record]
  | .putMany records =>
      match checkAll storage.schema records with
      | .error _ => [⟨.passed, storage⟩]
      | .ok _ => storage.putStages records
  | .commit =>
      match storage.commit with
      | (.ok _, after) => [⟨.committed, after⟩]
      | (.error _, after) => [storage.passing after]
  | operation => [storage.passing (storage.perform operation).2]

end Storage

/--
What a session owes to the outside: records since the last commit point, and
what was published there.  The records are lost if a failure has ended their
transaction.
-/
structure Account where
  puts : Nat
  published : Database
  isLost : Bool
  deriving DecidableEq, Repr

namespace Account

/-- The account after a stage that has left a storage behind. -/
def next (account : Account) (stage : Stage) : Account :=
  match stage.event with
  | .opened => ⟨0, stage.storage.view, false⟩
  | .committed => ⟨0, stage.storage.view, false⟩
  | .stored =>
      if stage.storage.policy.fires (account.puts + 1) then ⟨0, stage.storage.view, false⟩
      else { account with puts := account.puts + 1, isLost := false }
  | .unsettled =>
      { account with puts := account.puts + 1, isLost := !stage.storage.isUncommitted }
  | .passed => account
  | .lost => { account with isLost := true }

end Account

/-- A moment of a session: the end of a stage. -/
structure Moment where
  before : Storage
  earlier : Account
  stage : Stage
  workspace : Workspace
  deriving DecidableEq, Repr

namespace Moment

/-- The storage at the moment. -/
def storage (moment : Moment) : Storage :=
  moment.stage.storage

/-- The account at the moment. -/
def account (moment : Moment) : Account :=
  moment.earlier.next moment.stage

/-- The stage ends with everything committed: everybody sees what the storage sees. -/
def Publishes (moment : Moment) : Prop :=
  moment.storage.isUncommitted = false ∧ moment.storage.committed = moment.storage.view

/--
The stage commits nothing: everybody sees what they have seen before, and a
transaction that was open, or that a record was stored in, is open after it
unless a failure has ended it.
-/
def Withholds (moment : Moment) : Prop :=
  moment.storage.committed = moment.before.committed ∧
    (moment.before.isUncommitted = true ∨ moment.stage.event = .stored →
      moment.storage.isUncommitted = true ∨ moment.stage.event = .lost)

/-- What a policy says about the puts that are pending, and about a put that was just stored. -/
def Respects (moment : Moment) : AutoCommit → Prop
  | .manual => moment.stage.event = .stored → moment.Withholds
  | .everyPut =>
      moment.storage.pending = 0 ∧ (moment.stage.event = .stored → moment.Publishes)
  | .every count _ =>
      moment.storage.pending < count ∧
        (moment.stage.event = .stored →
          if moment.earlier.puts + 1 = count then moment.Publishes else moment.Withholds)

/-- The puts are accounted for at a moment, under a policy. -/
structure IsAccountedFor (moment : Moment) (policy : AutoCommit) : Prop where
  counts : moment.storage.pending = moment.account.puts
  isOpen :
    0 < moment.storage.pending →
      moment.storage.isUncommitted = true ∨ moment.account.isLost = true
  withholds : moment.stage.event = .passed ∨ moment.stage.event = .lost → moment.Withholds
  respects : moment.Respects policy

end Moment

namespace Session

open Storage (Operation)

/-- What happens around a session. -/
inductive Happening where
  | asked (operation : Operation)
  | changed (workspace : Workspace)

/-- The moments at the ends of some stages. -/
def follow (session : Session) (account : Account) (before : Storage) :
    List Stage → List Moment
  | [] => []
  | stage :: rest =>
      { before := before
        earlier := account
        stage := stage
        workspace := stage.storage.save session.workspace session.storage } ::
        session.follow (account.next stage) stage.storage rest

/-- The storage with which an operation starts. -/
def current (session : Session) : Storage :=
  session.storage.refresh session.workspace

/-- The account after an operation. -/
def accountAfter (session : Session) (account : Account) (operation : Operation) : Account :=
  (session.current.stages operation).foldl Account.next account

/-- The moments of what happens to a session. -/
def trace (session : Session) (account : Account) : List Happening → List Moment
  | [] => []
  | .changed workspace :: rest => Session.trace ⟨session.storage, workspace⟩ account rest
  | .asked operation :: rest =>
      session.follow account session.current (session.current.stages operation) ++
        Session.trace (session.perform operation).2 (session.accountAfter account operation) rest

/-- The moment at which a session is opened. -/
def opening (session : Session) : Moment where
  before := session.storage
  earlier := ⟨0, session.view, false⟩
  stage := ⟨.opened, session.storage⟩
  workspace := session.workspace

/-- The moments of a session from its opening on. -/
def moments (session : Session) (happenings : List Happening) : List Moment :=
  session.opening :: session.trace session.opening.account happenings

/-- Nothing hinders the operations of a session from committing. -/
def CommitsFreely (session : Session) : List Happening → Prop
  | [] => True
  | .changed workspace :: rest => Session.CommitsFreely ⟨session.storage, workspace⟩ rest
  | .asked operation :: rest =>
      session.current.commitHindrance = none ∧
        Session.CommitsFreely (session.perform operation).2 rest

end Session

end RecordStore
