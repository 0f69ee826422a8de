import RecordStore.Proofs.Storage.Failure

/-!
# Committing every put

When every put commits, a put that succeeds ends the transaction that it has
joined.  One that fails after its transaction was begun does not get that far,
and leaves the transaction open, unless the failure ends it.  So it is with
several puts at a time, where the first that fails is the last that is tried.

Main statement: `Session.left_open_iff_failsToWrite`.
-/

namespace RecordStore

namespace Storage

variable {storage : Storage} {error : Error}

/-! ## Failures -/

theorem isUncommitted_abandon_iff (isOpen : storage.isUncommitted = true) :
    (storage.abandon error).isUncommitted = true ↔ error.aftermath ≠ .ended := by
  rw [abandon]
  split
  · next goesOn => simp [isOpen, goesOn]
  · next goesOn => simp [isOpen, goesOn]
  · next goesOn => simp [isUncommitted_of_isWriting, goesOn]
  · next ends => simp [close, isUncommitted, ends]

/-- Reading leaves a transaction open, unless it fails so gravely that it is ended. -/
theorem isUncommitted_afterRead_iff {α : Type} (storage : Storage) (result : Except Error α) :
    (storage.afterRead result).isUncommitted = true ↔
      (¬ ∃ error, result = .error error ∧ error.aftermath = .ended) ∧
        storage.isUncommitted = true := by
  rw [afterRead.eq_def]
  split
  · simp
  · next error =>
      split
      · next ends => simp [close, isUncommitted, ends]
      · next goesOn => simp [goesOn]
      · next goesOn _ =>
          have notEnded : error.aftermath ≠ .ended := goesOn
          simp [notEnded]

/-! ## Single puts -/

/-- A put that has begun a transaction leaves it open exactly if it fails and does not end it. -/
theorem isUncommitted_put_iff
    (isEveryPut : storage.policy = .everyPut)
    {record : Record}
    (checked : storage.schema.check record = .ok ()) :
    (storage.put record).2.isUncommitted = true ↔
      ∃ error, (storage.put record).1 = .error error ∧ error.aftermath ≠ .ended := by
  have puts := storage.puts_put record
  generalize storage.put record = result at puts ⊢
  cases puts with
  | refused misfits => cases misfits.symm.trans checked
  | failed =>
      simpa using isUncommitted_abandon_iff storage.isUncommitted_begin
  | @stored id database counted after _ _ counts =>
      cases counted with
      | ok done =>
          have left := counted_of_countPut counts
          have fires : AutoCommit.everyPut.fires (storage.pending + 1) = true := rfl
          rw [isEveryPut, if_pos fires] at left
          simp [left.2.1, Except.map]
      | error error =>
          rcases waits_or_lost_of_countPut counts with ⟨goesOn, _, waits⟩ | ⟨ends, _, isClosed⟩
          · have isWriting : after.isWriting = true := by
              rw [isWriting, waits]
              rfl
            simp [Except.map, goesOn, isUncommitted_of_isWriting _ isWriting]
          · simp [Except.map, ends, isClosed]

/-! ## Several puts -/

theorem continues_put (record : Record) : Continues storage (storage.put record).2 :=
  storage.continues_perform (.put record)

/-- Of several puts the first that fails may leave its transaction open, and it is the last one. -/
theorem isUncommitted_putEach_iff
    (isEveryPut : storage.policy = .everyPut)
    {records : List Record}
    (checked : checkAll storage.schema records = .ok ()) :
    (storage.putEach records).2.isUncommitted = true ↔
      (∃ error, (storage.putEach records).1 = .error error ∧ error.aftermath ≠ .ended) ∨
        (records = [] ∧ storage.isUncommitted = true) := by
  -- A put that succeeds has closed the transaction, so only the last one that is tried counts.
  induction records generalizing storage with
  | nil => simp [putEach]
  | cons record rest induction =>
      rcases Outcome.bind_eq_ok_iff.mp checked with ⟨_, firstChecked, restChecked⟩
      have first := isUncommitted_put_iff isEveryPut firstChecked
      have continues := storage.continues_put record
      rw [putEach]
      split
      · next error after fails =>
          rw [fails] at first
          simpa using first
      · next id after succeeds =>
          rw [succeeds] at first continues
          have isClosed : after.isUncommitted = false := by simpa using first
          have later :=
            induction (continues.policy_eq.trans isEveryPut) (continues.schema_eq ▸ restChecked)
          split
          · next error last fails =>
              rw [fails] at later
              simpa [isClosed] using later
          · next ids last succeeds =>
              rw [succeeds, isClosed] at later
              simpa using later

/-! ## Operations -/

/--
The operation fails to write, or a transaction is open that it does not commit;
and it does not end its transaction.
-/
def LeavesOpen (storage : Storage) (operation : Operation) : Prop :=
  ¬ storage.Ends operation ∧
    (storage.FailsToWrite operation ∨
      (storage.isUncommitted = true ∧ ¬ storage.Commits operation))

theorem isUncommitted_put_iff_leavesOpen
    (isEveryPut : storage.policy = .everyPut)
    (record : Record) :
    (storage.put record).2.isUncommitted = true ↔ storage.LeavesOpen (.put record) := by
  cases checked : storage.schema.check record with
  | error fault =>
      simp [put, enter_eq_of_misfit checked, LeavesOpen, FailsToWrite, Commits, Ends, checked,
        perform, conclude, Except.map, Error.aftermath]
  | ok accepted =>
      rw [isUncommitted_put_iff isEveryPut checked]
      cases result : (storage.put record).1 with
      | error error =>
          simp [LeavesOpen, FailsToWrite, checked, result, Ends, perform, conclude, Except.map]
      | ok id => simp [LeavesOpen, FailsToWrite, Commits, result]

theorem isUncommitted_putMany_iff_leavesOpen
    (isEveryPut : storage.policy = .everyPut)
    (records : List Record) :
    (storage.putMany records).2.isUncommitted = true ↔ storage.LeavesOpen (.putMany records) := by
  cases checked : checkAll storage.schema records with
  | error fault =>
      simp [putMany, checked, LeavesOpen, FailsToWrite, Commits, Ends, perform, conclude,
        Except.map, Error.aftermath]
  | ok accepted =>
      have samePuts : storage.putMany records = storage.putEach records := by
        rw [putMany, checked]
      rw [samePuts, isUncommitted_putEach_iff isEveryPut checked]
      cases result : (storage.putEach records).1 with
      | error error =>
          have notEmpty : records ≠ [] := by
            rintro rfl
            cases result
          simp [LeavesOpen, FailsToWrite, checked, samePuts, result, Ends, perform, conclude,
            Except.map, notEmpty]
      | ok ids =>
          simp [LeavesOpen, FailsToWrite, Commits, samePuts, result, and_comm, Ends, perform,
            conclude, Except.map]

theorem isUncommitted_commit_iff_leavesOpen (storage : Storage) :
    storage.commit.2.isUncommitted = true ↔ storage.LeavesOpen .commit := by
  have settles := storage.settles_commit
  simp only [LeavesOpen, Ends, perform, conclude, FailsToWrite, Commits]
  generalize storage.commit = result at settles ⊢
  cases settles with
  | published => simp [publish, isUncommitted]
  | waiting isWriting _ goesOn =>
      have wasOpen := isUncommitted_of_isWriting _ isWriting
      simp only [isUncommitted, bne_iff_ne, ne_eq] at wasOpen
      simp [wait, isUncommitted, Except.map, Error.aftermath, goesOn, wasOpen]
  | lost _ _ ends => simp [close, isUncommitted, Except.map, Error.aftermath, ends]

/--
An operation that removes nothing leaves a transaction open if it fails to
write, and otherwise only one that was open, unless it commits; one that ends
its transaction leaves none.
-/
theorem isUncommitted_perform_iff
    (isEveryPut : storage.policy = .everyPut)
    {operation : Operation}
    (noRemoval : ¬ operation.IsRemoval) :
    (storage.perform operation).2.isUncommitted = true ↔ storage.LeavesOpen operation := by
  cases operation with
  | get | select | getById | count =>
      simp [perform, observe, LeavesOpen, Ends, FailsToWrite, Commits,
        isUncommitted_afterRead_iff, Outcome.map_eq_error_iff]
  | put record => exact isUncommitted_put_iff_leavesOpen isEveryPut record
  | putMany records => exact isUncommitted_putMany_iff_leavesOpen isEveryPut records
  | delete | deleteRecord | deleteAll => exact absurd trivial noRemoval
  | commit => exact storage.isUncommitted_commit_iff_leavesOpen

end Storage

namespace Session

variable {session : Session}

theorem isUncommitted_perform_iff
    (isEveryPut : session.storage.policy = .everyPut)
    {operation : Storage.Operation}
    (noRemoval : ¬ operation.IsRemoval) :
    (session.perform operation).2.storage.isUncommitted = true ↔
      session.current.LeavesOpen operation :=
  Storage.isUncommitted_perform_iff (show session.current.policy = _ from isEveryPut) noRemoval

theorem policy_perform (session : Session) (operation : Storage.Operation) :
    (session.perform operation).2.storage.policy = session.storage.policy :=
  (session.current.continues_perform operation).policy_eq

/-- Whatever happens to a session, its policy is the one that it began with. -/
theorem Reaches.policy_eq
    {asks : Session → Storage.Operation → Prop}
    {changes : Session → Workspace → Prop}
    {start : Session}
    (reaches : start.Reaches asks changes session) :
    session.storage.policy = start.storage.policy := by
  induction reaches with
  | start => rfl
  | asked _ _ same => exact (policy_perform _ _).trans same
  | changed _ _ same => exact same

theorem closed_of_reachesWriting
    {workspace : Workspace}
    {start : Session}
    (opens : Opens workspace start)
    (isEveryPut : start.storage.policy = .everyPut)
    (reaches : start.ReachesWriting session) :
    session.storage.isUncommitted = false := by
  induction reaches with
  | start =>
      rcases exists_opened_of_opens opens with ⟨_, _, _, _, _, _, _, isStorage⟩
      rw [isStorage]
      rfl
  | asked reached mayAsk closed =>
      have step :=
        isUncommitted_perform_iff (Reaches.policy_eq reached |>.trans isEveryPut) mayAsk.1
      rw [← Bool.not_eq_true, step]
      rintro ⟨_, fails | ⟨wasOpen, _⟩⟩
      · exact mayAsk.2 fails
      · cases closed.symm.trans wasOpen
  | changed _ _ closed => exact closed

/--
When every put commits, operations that remove nothing leave no transaction
open as long as every record that fits the schema could be written.  A write
that fails leaves its transaction open, until something commits, unless the
failure ends it.
-/
theorem left_open_iff_failsToWrite
    {workspace : Workspace}
    {start : Session}
    (opens : Opens workspace start)
    (isEveryPut : start.storage.policy = .everyPut) :
    (∀ session, start.ReachesWriting session → session.storage.isUncommitted = false) ∧
      ∀ session, start.ReachesFreely session →
        ∀ operation : Storage.Operation, ¬ operation.IsRemoval →
          ((session.perform operation).2.storage.isUncommitted = true ↔
            ¬ session.current.Ends operation ∧
              (session.current.FailsToWrite operation ∨
                (session.storage.isUncommitted = true ∧
                  ¬ session.current.Commits operation))) := by
  constructor
  · intro session reaches
    exact closed_of_reachesWriting opens isEveryPut reaches
  · intro session reaches operation noRemoval
    exact isUncommitted_perform_iff (Reaches.policy_eq reaches |>.trans isEveryPut) noRemoval

/-- A new table of names in memory, where every put commits. -/
def committing : Session :=
  (begin? (Storage.openTable .empty nameSchema "sqlite://:memory::t" .everyPut)).get
    (by decide +kernel)

theorem opens_committing : Opens .empty committing :=
  .inl ⟨_, _, _, eq_of_begin? (Option.some_get _).symm⟩

/-- A put that meets no row leaves its transaction open for the next put, which closes it. -/
theorem next_put_closes_transaction :
    let missed := (committing.perform (.put stranger)).2
    missed.storage.isUncommitted = true ∧
      (missed.perform (.put (person "Ada"))).2.storage.isUncommitted = false := by
  intro missed
  have isEveryPut : committing.storage.policy = .everyPut := by decide +kernel
  have law := (left_open_iff_failsToWrite opens_committing isEveryPut).2
  have checked : committing.current.schema.check stranger = .ok () :=
    Outcome.eq_ok_of_toOption (by decide +kernel)
  have misses : (committing.current.put stranger).1 = .error (.recordNotFound 9) :=
    eq_error_of_missingId? (by decide +kernel)
  have stores : (missed.current.put (person "Ada")).1 = .ok 1 :=
    Outcome.eq_ok_of_toOption (by decide +kernel)
  have goesOn : ¬ committing.current.Ends (.put stranger) := by
    rintro ⟨error, fails, ends⟩
    cases misses.symm.trans (Outcome.map_eq_error_iff.mp fails)
    contradiction
  constructor
  · exact (law committing .start (.put stranger) id).mpr ⟨goesOn, .inl ⟨checked, _, misses⟩⟩
  · by_contra isOpen
    rw [Bool.not_eq_false] at isOpen
    rcases ((law missed (.asked .start trivial) (.put (person "Ada")) id).mp isOpen).2 with
      ⟨_, error, fails⟩ | ⟨_, notCommitted⟩
    · rw [stores] at fails
      contradiction
    · exact notCommitted ⟨1, stores⟩

/-- Although every put commits, a put that fails leaves a transaction open. -/
theorem failed_put_leaves_transaction_open :
    Opens .empty committing ∧ committing.storage.policy = .everyPut ∧
      (committing.perform (.put stranger)).1 = .error (.recordNotFound 9) ∧
        (committing.perform (.put stranger)).2.storage.isUncommitted = true := by
  refine ⟨opens_committing, ?_, ?_, ?_⟩
  · decide +kernel
  · exact eq_error_of_missingId? (by decide +kernel)
  · decide +kernel

end Session

end RecordStore
