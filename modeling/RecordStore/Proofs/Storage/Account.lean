import RecordStore.Proofs.Storage.Created

/-!
# Puts are accounted for

A storage counts the puts since its last commit, and it has an open
transaction while there are any.  Both are kept by different functions, so
that they have to be followed through every stage of every operation: through
stored records inside of larger operations, through writes that fail, through
removals, and also when others change the workspace in between.

Main statement: `Session.puts_are_accounted`.
-/

namespace RecordStore

/-! ## Following a session -/

namespace Session

/-- What every stage keeps holds at all moments of some stages, and at their end. -/
theorem follow_induction
    {motive : Storage → Account → Prop}
    (kept :
      ∀ before account stage, motive before account → Storage.Step before stage →
        motive stage.storage (account.next stage))
    (session : Session)
    {account : Account}
    {before : Storage}
    {stages : List Stage}
    (steps : before.StepsFrom stages)
    (holds : motive before account) :
    (∀ moment ∈ session.follow account before stages,
      motive moment.before moment.earlier ∧ Storage.Step moment.before moment.stage ∧
        moment.workspace = moment.storage.save session.workspace session.storage) ∧
      motive (before.arrive stages) (stages.foldl Account.next account) := by
  -- The workspace of a moment comes from the session, and not from the moment before it.
  induction stages generalizing account before with
  | nil => exact ⟨fun _ member => absurd member List.not_mem_nil, holds⟩
  | cons stage rest induction =>
      rcases induction steps.2 (kept before account stage holds steps.1) with ⟨later, last⟩
      refine ⟨?_, last⟩
      intro moment member
      rcases List.mem_cons.mp member with rfl | isLater
      · exact ⟨holds, steps.1, rfl⟩
      · exact later moment isLater

/-- What holds at the moments of each operation holds at the moments of a whole session. -/
theorem trace_induction
    (property : Moment → Prop)
    {motive : Session → Account → List Happening → Prop}
    (asked :
      ∀ session account operation rest, motive session account (.asked operation :: rest) →
        (∀ moment ∈ session.follow account session.current (session.current.stages operation),
          property moment) ∧
          motive (session.perform operation).2 (session.accountAfter account operation) rest)
    (changed :
      ∀ session account workspace rest, motive session account (.changed workspace :: rest) →
        motive ⟨session.storage, workspace⟩ account rest)
    {session : Session}
    {account : Account}
    {happenings : List Happening}
    (holds : motive session account happenings) :
    ∀ moment ∈ session.trace account happenings, property moment := by
  induction happenings generalizing session account with
  | nil => exact fun _ member => absurd member List.not_mem_nil
  | cons happening rest induction =>
      cases happening with
      | changed workspace => exact induction (changed session account workspace rest holds)
      | asked operation =>
          rcases asked session account operation rest holds with ⟨here, next⟩
          intro moment member
          rcases List.mem_append.mp member with isHere | isLater
          · exact here moment isHere
          · exact induction next moment isLater

end Session

/-! ## Counting puts -/

namespace Storage

@[simp]
theorem pending_hold (storage : Storage) : storage.hold.pending = storage.pending := by
  rw [hold]
  split <;> rfl

/-- A stage that rests counts no put. -/
theorem Rests.pending_eq {before after : Storage} (rests : before.Rests after) :
    after.pending = before.pending := by
  cases rests <;> simp [take, wait, close]

theorem pending_entered
    (storage : Storage)
    (record : Record)
    (id : Int64)
    (database : Database) :
    (storage.entered record id database).pending = storage.pending := by
  rw [entered, remember]
  split <;> exact storage.pending_begin

theorem isWriting_entered
    (storage : Storage)
    (record : Record)
    (id : Int64)
    (database : Database) :
    (storage.entered record id database).isWriting = true := by
  rw [entered, remember]
  split <;> exact isWriting_write storage.begin database

theorem isUncommitted_entered
    (storage : Storage)
    (record : Record)
    (id : Int64)
    (database : Database) :
    (storage.entered record id database).isUncommitted = true :=
  isUncommitted_of_isWriting _ (storage.isWriting_entered record id database)

/-- What a put that was counted leaves behind: everything is committed, or it waits. -/
theorem counted_of_countPut
    {storage after : Storage}
    {record : Record}
    {id : Int64}
    {database : Database}
    {done : Unit}
    (counts : (storage.entered record id database).countPut = (.ok done, after)) :
    if storage.policy.fires (storage.pending + 1) then
      after.pending = 0 ∧ after.isUncommitted = false ∧ after.committed = database
    else
      after.pending = storage.pending + 1 ∧ after.isUncommitted = true ∧
        after.committed = storage.committed := by
  have samePolicy := (storage.continues_entered record id database).policy_eq
  have samePending := storage.pending_entered record id database
  have counted := counts_countPut (storage.entered record id database)
  rw [counts] at counted
  cases counted with
  | counted waits =>
      rw [samePolicy, samePending] at waits
      rw [if_neg (by simp [waits])]
      exact
        ⟨congrArg (· + 1) samePending, storage.isUncommitted_entered record id database,
          storage.committed_entered record id database⟩
  | committed fires settles =>
      rw [samePolicy, samePending] at fires
      rw [if_pos fires]
      cases settles with
      | published => exact ⟨rfl, rfl, storage.view_entered record id database⟩

/-- What a put leaves behind that was stored and could not be committed. -/
theorem unsettled_of_countPut
    {storage after : Storage}
    {record : Record}
    {id : Int64}
    {database : Database}
    {error : Error}
    (counts : (storage.entered record id database).countPut = (.error error, after)) :
    storage.policy.fires (storage.pending + 1) = true ∧ storage.commitHindrance ≠ none ∧
      after.pending = storage.pending + 1 ∧ after.committed = storage.committed := by
  have continues := storage.continues_entered record id database
  have samePending := storage.pending_entered record id database
  have sameCommitted := storage.committed_entered record id database
  have counted := counts_countPut (storage.entered record id database)
  rw [counts] at counted
  have hinders := counted.ne_error
  rw [continues.commitHindrance_eq] at hinders
  cases counted with
  | committed fires settles =>
      rw [continues.policy_eq, samePending] at fires
      refine ⟨fires, hinders, ?_⟩
      cases settles with
      | waiting | lost => exact ⟨congrArg (· + 1) samePending, sameCommitted⟩

/-- A put that was stored and not committed waits in its transaction, or is lost with it. -/
theorem waits_or_lost_of_countPut
    {storage after : Storage}
    {record : Record}
    {id : Int64}
    {database : Database}
    {error : Error}
    (counts : (storage.entered record id database).countPut = (.error error, after)) :
    (error.aftermath ≠ .ended ∧ after.view = database ∧ after.lock? = some .exclusive) ∨
      (error.aftermath = .ended ∧ after.view = storage.committed ∧
        after.isUncommitted = false) := by
  have sameCommitted := storage.committed_entered record id database
  have sameView := storage.view_entered record id database
  have counted := counts_countPut (storage.entered record id database)
  rw [counts] at counted
  cases counted with
  | committed _ settles =>
      cases settles with
      | waiting _ _ goesOn => exact .inl ⟨goesOn, sameView, rfl⟩
      | lost _ _ ends => exact .inr ⟨ends, sameCommitted, rfl⟩

/-- A record that was stored is seen, unless a failure has ended the transaction. -/
theorem view_of_countPut
    {storage after : Storage}
    {record : Record}
    {id : Int64}
    {database : Database}
    {counted : Except Error Unit}
    (counts : (storage.entered record id database).countPut = (counted, after))
    (goesOn : ∀ error, counted = .error error → error.aftermath ≠ .ended) :
    after.view = database := by
  cases counted with
  | ok done =>
      have settled := counts_countPut (storage.entered record id database)
      rw [counts] at settled
      exact settled.view_eq_of_ok.trans (storage.view_entered record id database)
  | error error =>
      rcases waits_or_lost_of_countPut counts with ⟨_, waits, _⟩ | ⟨ends, _⟩
      · exact waits
      · exact absurd ends (goesOn error rfl)

/-- The storage has what the account says is pending, and an open transaction unless it is lost. -/
structure Accounted (storage : Storage) (account : Account) : Prop where
  counts : storage.pending = account.puts
  isOpen : 0 < account.puts → storage.isUncommitted = true ∨ account.isLost = true

theorem Accounted.of_no_puts
    {storage : Storage}
    {account : Account}
    (isZero : storage.pending = 0)
    (noPuts : account.puts = 0) :
    storage.Accounted account :=
  ⟨isZero.trans noPuts.symm, fun positive => absurd noPuts (Nat.ne_of_gt positive)⟩

/-- A stage that rests leaves the account as it is, but for whether the puts are lost. -/
theorem Accounted.passing
    {before after : Storage}
    {account : Account}
    (accounted : before.Accounted account)
    (samePending : after.pending = before.pending) :
    after.Accounted (account.next (before.passing after)) := by
  rw [Storage.passing]
  split
  · exact ⟨samePending.trans accounted.counts, fun _ => .inr rfl⟩
  · next kept =>
      refine ⟨samePending.trans accounted.counts, fun positive => ?_⟩
      rcases accounted.isOpen positive with wasOpen | isLost
      · left
        simpa [wasOpen] using kept
      · exact .inr isLost

/-- The account after a put that was stored, by the policy of the storage before it. -/
theorem next_stored
    {before after : Storage}
    {record : Record}
    {id : Int64}
    {database : Database}
    {done : Unit}
    (counts : (before.entered record id database).countPut = (.ok done, after))
    (account : Account) :
    account.next ⟨.stored, after⟩ =
      if before.policy.fires (account.puts + 1) then ⟨0, database, false⟩
      else { account with puts := account.puts + 1, isLost := false } := by
  have counted := counts_countPut (before.entered record id database)
  rw [counts] at counted
  have samePolicy : after.policy = before.policy :=
    ((before.continues_entered record id database).trans counted.continues).policy_eq
  have sameView : after.view = database :=
    counted.view_eq_of_ok.trans (before.view_entered record id database)
  rw [Account.next]
  dsimp only
  rw [samePolicy, sameView]

theorem Accounted.next
    {before : Storage}
    {account : Account}
    (accounted : before.Accounted account)
    {stage : Stage}
    (step : Step before stage) :
    stage.storage.Accounted (account.next stage) := by
  cases step with
  | rested rests => exact accounted.passing rests.pending_eq
  | removed =>
      refine ⟨before.pending_begin.trans accounted.counts, fun _ => .inl ?_⟩
      exact isUncommitted_of_isWriting _ (isWriting_write _ _)
  | @stored record id database after checked stores counts =>
      have left := counted_of_countPut counts
      rw [accounted.counts] at left
      rw [next_stored counts]
      split at left
      · next fires =>
          rw [if_pos fires]
          exact .of_no_puts left.1 rfl
      · next waits =>
          rw [if_neg waits]
          exact ⟨left.1, fun _ => .inl left.2.1⟩
  | @unsettled record id database error after checked stores counts =>
      obtain ⟨_, _, pending, _⟩ := unsettled_of_countPut counts
      rw [accounted.counts] at pending
      refine ⟨pending, fun _ => ?_⟩
      show after.isUncommitted = true ∨ (!after.isUncommitted) = true
      cases after.isUncommitted <;> simp
  | committed => exact .of_no_puts rfl rfl

theorem Accounted.refresh
    {storage : Storage}
    {account : Account}
    (accounted : storage.Accounted account)
    (workspace : Workspace) :
    (storage.refresh workspace).Accounted account :=
  ⟨accounted.counts, accounted.isOpen⟩

/-- As many puts as are pending wait for more, or there are none. -/
def Gathers (storage : Storage) (account : Account) : Prop :=
  0 < account.puts → storage.policy.fires account.puts = false

/-- Where nothing hinders commits, no more puts are pending than the policy lets gather. -/
theorem Gathers.next
    {before : Storage}
    {account : Account}
    (gathers : before.Gathers account)
    (free : before.commitHindrance = none)
    {stage : Stage}
    (step : Step before stage) :
    stage.storage.Gathers (account.next stage) := by
  have samePolicy := step.continues.policy_eq
  rw [Gathers, samePolicy]
  cases step with
  | rested =>
      rw [passing]
      split <;> exact gathers
  | removed => exact gathers
  | @stored record id database after checked stores counts =>
      rw [next_stored counts]
      split
      · exact fun positive => absurd positive (Nat.lt_irrefl 0)
      · next waits => exact fun _ => by simpa using waits
  | unsettled checked stores counts => exact absurd free (unsettled_of_countPut counts).2.1
  | committed => exact fun positive => absurd positive (Nat.lt_irrefl 0)

theorem Gathers.puts_eq_zero
    {storage : Storage}
    {account : Account}
    (gathers : storage.Gathers account)
    (isEveryPut : storage.policy = .everyPut) :
    account.puts = 0 := by
  apply Nat.eq_zero_of_not_pos
  intro positive
  have waits := gathers positive
  rw [isEveryPut] at waits
  contradiction

theorem Gathers.puts_lt
    {storage : Storage}
    {account : Account}
    (gathers : storage.Gathers account)
    {count : Nat}
    {positive : 0 < count}
    (isEvery : storage.policy = .every count positive) :
    account.puts < count := by
  rcases Nat.eq_zero_or_pos account.puts with isZero | isPending
  · rw [isZero]
    exact positive
  · have waits := gathers isPending
    rw [isEvery] at waits
    simpa [AutoCommit.fires] using waits

end Storage

/-! ## What a stage commits -/

namespace Moment

open Storage (Step)

variable {moment : Moment}

theorem event_passing (before after : Storage) :
    (before.passing after).event = .lost ∨
      ((before.passing after).event = .passed ∧
        (before.isUncommitted = true → after.isUncommitted = true)) := by
  rw [Storage.passing]
  split
  · exact .inl rfl
  · next kept => exact .inr ⟨rfl, fun wasOpen => by simpa [wasOpen] using kept⟩

/-- Only puts and commits that are asked for commit anything. -/
theorem withholds_of_passed
    (step : Step moment.before moment.stage)
    (isPassed : moment.stage.event = .passed ∨ moment.stage.event = .lost) :
    moment.Withholds := by
  rcases moment with ⟨before, earlier, stage, workspace⟩
  dsimp only at step isPassed
  cases step with
  | @rested after rests =>
      refine ⟨rests.committed_eq, fun wasOpen => ?_⟩
      rcases event_passing before after with isLost | ⟨passed, kept⟩
      · exact .inr isLost
      · left
        apply kept
        simpa [passed] using wasOpen
  | removed =>
      refine ⟨before.committed_begin, fun _ => .inl ?_⟩
      exact Storage.isUncommitted_of_isWriting _ (Storage.isWriting_write _ _)
  | stored | unsettled | committed => simp at isPassed

/-- A put commits exactly if the policy asks for it. -/
theorem commits_of_stored
    (step : Step moment.before moment.stage)
    (isStored : moment.stage.event = .stored) :
    if moment.before.policy.fires (moment.before.pending + 1) then moment.Publishes
    else moment.Withholds := by
  rcases moment with ⟨before, earlier, stage, workspace⟩
  dsimp only at step isStored ⊢
  cases step with
  | @rested after rests =>
      rcases event_passing before after with isLost | ⟨passed, _⟩
      · cases isLost.symm.trans isStored
      · cases passed.symm.trans isStored
  | removed | committed | unsettled => contradiction
  | @stored record id database after checked stores counts =>
      have left := Storage.counted_of_countPut counts
      have counted := Storage.counts_countPut (before.entered record id database)
      rw [counts] at counted
      have sameView : after.view = database :=
        counted.view_eq_of_ok.trans (before.view_entered record id database)
      split at left
      · next fires =>
          rw [if_pos fires]
          exact ⟨left.2.1, left.2.2.trans sameView.symm⟩
      · next waits =>
          rw [if_neg waits]
          exact ⟨left.2.2, fun _ => .inl left.2.1⟩

/-- Puts are counted as the policy asks for, if a put that was stored was counted before. -/
theorem respects_policy
    (now : moment.storage.Accounted moment.account)
    (gathers : moment.storage.Gathers moment.account)
    (stored :
      moment.stage.event = .stored →
        moment.before.Accounted moment.earlier ∧ moment.before.Gathers moment.earlier ∧
          Step moment.before moment.stage) :
    moment.Respects moment.storage.policy := by
  have commits (isStored : moment.stage.event = .stored) :
      if moment.storage.policy.fires (moment.earlier.puts + 1) then moment.Publishes
      else moment.Withholds := by
    rcases stored isStored with ⟨accounted, _, step⟩
    have samePolicy : moment.storage.policy = moment.before.policy := step.continues.policy_eq
    rw [samePolicy, ← accounted.counts]
    exact commits_of_stored step isStored
  cases policy : moment.storage.policy with
  | manual =>
      rw [policy] at commits
      exact commits
  | everyPut =>
      rw [policy] at commits
      exact ⟨now.counts.trans (gathers.puts_eq_zero policy), commits⟩
  | every count positive =>
      rw [policy] at commits
      refine ⟨now.counts ▸ gathers.puts_lt policy, fun isStored => ?_⟩
      -- fewer than the count were pending before, so that the count is reached and not passed
      rcases stored isStored with ⟨_, gathered, step⟩
      have fewer := gathered.puts_lt (step.continues.policy_eq.symm.trans policy)
      have fires :
          AutoCommit.fires (.every count positive) (moment.earlier.puts + 1) = true ↔
            moment.earlier.puts + 1 = count := by
        rw [AutoCommit.fires, decide_eq_true_iff]
        omega
      simpa only [fires] using commits isStored

end Moment

/-! ## Sessions -/

namespace Session

theorem last_follow
    (session : Session)
    (account : Account)
    (before : Storage)
    {stages : List Stage}
    (isSome : stages ≠ []) :
    ((session.follow account before stages).getLast?.map
        fun moment => (⟨moment.storage, moment.workspace⟩ : Session)) =
      some
        ⟨before.arrive stages,
          (before.arrive stages).save session.workspace session.storage⟩ := by
  induction stages generalizing account before with
  | nil => contradiction
  | cons stage rest induction =>
      cases rest with
      | nil => rfl
      | cons next later =>
          rw [follow, follow, List.getLast?_cons_cons]
          exact induction _ _ (List.cons_ne_nil next later)

/-- What opens a storage begins an account of it. -/
theorem accounted_of_opens
    {workspace : Workspace}
    {session : Session}
    (opens : Opens workspace session) :
    session.storage.Accounted session.opening.account := by
  rcases exists_opened_of_opens opens with ⟨_, _, _, _, _, _, _, isStorage⟩
  have isNew : session.storage.pending = 0 := by
    rw [isStorage]
    rfl
  exact .of_no_puts isNew rfl

/-- The last moment of an operation is the session after it. -/
theorem last_moment_eq
    (session : Session)
    (account : Account)
    (operation : Storage.Operation) :
    ((session.follow account session.current (session.current.stages operation)).getLast?.map
        fun moment => (⟨moment.storage, moment.workspace⟩ : Session)) =
      some (session.perform operation).2 := by
  rw [session.last_follow account session.current (Storage.stages_ne_nil _ _),
    Storage.arrive_stages]
  rfl

/-- The session has a policy, and its puts are accounted for. -/
structure Keeps (policy : AutoCommit) (storage : Storage) (account : Account) : Prop where
  samePolicy : storage.policy = policy
  accounted : storage.Accounted account
  gathers : storage.Gathers account

/-- An operation keeps what a storage has to account for, at each of its moments. -/
theorem isAccountedFor_of_asked
    {session : Session}
    {account : Account}
    {policy : AutoCommit}
    (keeps : Keeps policy session.storage account)
    (operation : Storage.Operation)
    (free : session.current.commitHindrance = none) :
    (∀ moment ∈ session.follow account session.current (session.current.stages operation),
      moment.IsAccountedFor policy) ∧
      Keeps policy (session.perform operation).2.storage
        (session.accountAfter account operation) := by
  have steps := session.current.stepsFrom_stages operation
  have begins : Keeps policy session.current account :=
    ⟨keeps.samePolicy, keeps.accounted.refresh session.workspace, keeps.gathers⟩
  have kept (before : Storage) (account : Account) (stage : Stage)
      (holds : Keeps policy before account ∧ before.commitHindrance = none)
      (step : Storage.Step before stage) :
      Keeps policy stage.storage (account.next stage) ∧ stage.storage.commitHindrance = none :=
    ⟨⟨step.continues.policy_eq.trans holds.1.samePolicy, holds.1.accounted.next step,
        holds.1.gathers.next holds.2 step⟩,
      step.continues.commitHindrance_eq.trans holds.2⟩
  rcases follow_induction kept session steps ⟨begins, free⟩ with ⟨moments, last⟩
  constructor
  · intro moment member
    rcases moments moment member with ⟨⟨before, freeBefore⟩, step, _⟩
    obtain ⟨policyNow, now, gathers⟩ : Keeps policy moment.storage moment.account :=
      (kept _ _ _ ⟨before, freeBefore⟩ step).1
    constructor
    · exact now.counts
    · exact fun isPending => now.isOpen (now.counts ▸ isPending)
    · exact Moment.withholds_of_passed step
    · rw [← policyNow]
      exact
        Moment.respects_policy now gathers fun _ => ⟨before.accounted, before.gathers, step⟩
  · rw [Storage.arrive_stages] at last
    exact last.1

/--
At every moment the storage counts the puts that have succeeded since the
last commit point, and has an open transaction if there are any, unless a
failure has ended it.  Puts commit when the policy says so, and nothing else
commits but what is asked to.
-/
theorem puts_are_accounted
    {workspace : Workspace}
    {session : Session}
    (opens : Opens workspace session)
    (happenings : List Happening)
    (commitsFreely : session.CommitsFreely happenings) :
    ∀ moment ∈ session.moments happenings, moment.IsAccountedFor session.storage.policy := by
  have accounted := accounted_of_opens opens
  have gathers : session.storage.Gathers session.opening.account :=
    fun positive => absurd positive (Nat.lt_irrefl 0)
  intro moment member
  rcases List.mem_cons.mp member with rfl | isLater
  · constructor
    · exact accounted.counts
    · exact fun isPending => accounted.isOpen (accounted.counts ▸ isPending)
    · exact fun isPassed => absurd isPassed (by simp [opening])
    · exact
        Moment.respects_policy accounted gathers fun isStored =>
          absurd isStored (by simp [opening])
  · generalize samePolicy : session.storage.policy = policy
    refine
      trace_induction (fun moment => moment.IsAccountedFor policy)
        (motive := fun current account rest =>
          Keeps policy current.storage account ∧ current.CommitsFreely rest)
        ?_ ?_ ⟨⟨samePolicy, accounted, gathers⟩, commitsFreely⟩ moment isLater
    · rintro current account operation rest ⟨keeps, free, later⟩
      obtain ⟨moments, next⟩ := isAccountedFor_of_asked keeps operation free
      exact ⟨moments, next, later⟩
    · rintro current account workspace rest ⟨keeps, later⟩
      exact ⟨keeps, later⟩

/-- Two puts at a time are committed; a removal in between waits for the next two. -/
theorem every_second_put_commits :
    let ada := person "Ada"
    let session := inMemory nameSchema (.every 2 (by decide))
    let happenings : List Happening :=
      [.asked (.putMany [ada, ada]), .asked .deleteAll, .asked (.put ada)]
    (∀ moment ∈ session.moments happenings,
      moment.IsAccountedFor (.every 2 (by decide))) ∧
      ((session.moments happenings).map fun moment =>
          (moment.storage.pending, moment.storage.isUncommitted)) =
        [(0, false), (1, true), (0, false), (0, false), (0, true), (1, true)] := by
  intro ada session happenings
  have accepted : Schema.ofNames ["name"] = .ok nameSchema := by decide +kernel
  have checked : Database.checkColumns "t" [] ["name"] = .ok () := by decide
  rcases creates_inMemory accepted checked (.every 2 (by decide)) with
    ⟨workspace, _, schema, text, policy, _, _, opens⟩
  have opensHere : Opens workspace session := .inl ⟨schema, text, policy, opens⟩
  have commitsFreely : session.CommitsFreely happenings := by
    refine ⟨?_, ?_, ?_, trivial⟩ <;> decide +kernel
  refine ⟨puts_are_accounted opensHere happenings commitsFreely, ?_⟩
  decide +kernel

/-! ## Tables that end transactions -/

/-- A table that was made outside, in which a row without a name ends the transaction. -/
def strictTable : Table :=
  { name := "t"
    columns := ["name", "age"]
    rows := []
    definition := some "CREATE TABLE t (name NOT NULL ON CONFLICT ROLLBACK, age)"
    affinities := []
    key := none
    rules := [.present 0 .rollback] }

/-- The workspace with such a table in a file. -/
def strictWorkspace : Workspace :=
  Workspace.empty.setEntry ["x.db"] (.file (.database ⟨[strictTable], []⟩))

/-- Such a table, opened. -/
def strict : Session :=
  (begin? (Storage.openExisting strictWorkspace "sqlite://x.db:t" .manual)).get
    (by decide +kernel)

theorem opens_strict : Opens strictWorkspace strict :=
  .inr ⟨_, _, eq_of_begin? (Option.some_get _).symm⟩

/-- A record without a name. -/
def nameless : Record :=
  ⟨none, .ofList [("age", .integer 1)]⟩

/-- A put that ends the transaction leaves a put pending that nothing can commit any more. -/
theorem put_is_pending_without_transaction :
    Opens strictWorkspace strict ∧
      strict.CommitsFreely [.asked (.put (person "Ada")), .asked (.put nameless)] ∧
        let last := strict.after [.put (person "Ada"), .put nameless]
        last.storage.pending = 1 ∧ last.storage.isUncommitted = false := by
  refine ⟨opens_strict, ⟨?_, ?_, trivial⟩, ?_, ?_⟩ <;> decide +kernel

end Session

end RecordStore
