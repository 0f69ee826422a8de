import RecordStore.Proofs.Storage.Turn

/-!
# What several puts commit

A policy may ask for a commit while several records are being stored.  The
records up to that commit are there for everybody, also if a later record
cannot be stored, and those after it wait in the transaction that is open,
unless the failure ends it.  Where something hinders a commit there is none.

Main statement: `Session.putMany_publishes_up_to_last_commit`.
-/

namespace RecordStore

namespace AutoCommit

variable {policy : AutoCommit}

theorem committedOf_zero (policy : AutoCommit) (pending : Nat) :
    policy.committedOf pending 0 = 0 := by
  cases policy with
  | manual => rfl
  | everyPut => rfl
  | every count positive =>
      have isSmall : min pending (count - 1) < count := by omega
      simp only [committedOf, Nat.add_zero, Nat.div_eq_of_lt isSmall, Nat.zero_mul, Nat.zero_sub]

/-- One put more is committed with the others, unless there is no commit at all. -/
theorem committedOf_succ (policy : AutoCommit) (pending stored : Nat) :
    policy.committedOf pending (stored + 1) =
      if policy.fires (pending + 1) then
        policy.committedOf 0 stored + 1
      else if policy.committedOf (pending + 1) stored = 0 then
        0
      else
        policy.committedOf (pending + 1) stored + 1 := by
  cases policy with
  | manual => rfl
  | everyPut => rfl
  | every count positive =>
      by_cases isFull : count ≤ pending + 1
      · have fires : (every count positive).fires (pending + 1) = true := by
          simpa [AutoCommit.fires] using isFull
        have waiting : min pending (count - 1) = count - 1 := by omega
        have sum : count - 1 + (stored + 1) = count + stored := by omega
        simp only [fires, if_true, committedOf, waiting, sum, Nat.zero_min, Nat.zero_add,
          Nat.sub_zero, Nat.add_div_left stored positive, Nat.succ_mul]
        omega
      · have waits : (every count positive).fires (pending + 1) = false := by
          simpa [AutoCommit.fires] using isFull
        have waiting : min pending (count - 1) = pending := by omega
        have later : min (pending + 1) (count - 1) = pending + 1 := by omega
        have sum : pending + (stored + 1) = pending + 1 + stored := by omega
        simp only [waits, Bool.false_eq_true, if_false, committedOf, waiting, later, sum]
        rcases Nat.eq_zero_or_pos ((pending + 1 + stored) / count) with none | some
        · simp [none]
        · have isMuch : count ≤ (pending + 1 + stored) / count * count :=
            Nat.le_mul_of_pos_left count some
          rw [if_neg (by omega)]
          omega

end AutoCommit

namespace Storage

variable {storage : Storage}

/-! ## Single puts -/

/-- A put that succeeds counts, and commits when the policy asks for it. -/
structure Succeeds (storage after : Storage) : Prop where
  policy_eq : after.policy = storage.policy
  commitHindrance_eq : after.commitHindrance = storage.commitHindrance
  pending_eq :
    after.pending = if storage.policy.fires (storage.pending + 1) then 0 else storage.pending + 1
  isUncommitted_eq : after.isUncommitted = !storage.policy.fires (storage.pending + 1)
  committed_eq :
    after.committed =
      if storage.policy.fires (storage.pending + 1) then after.view else storage.committed
  free : storage.policy.fires (storage.pending + 1) = true → storage.commitHindrance = none

theorem succeeds_of_countPut
    {record : Record}
    {id : Int64}
    {database : Database}
    {done : Unit}
    {after : Storage}
    (counts : (storage.entered record id database).countPut = (.ok done, after)) :
    storage.Succeeds after := by
  have left := counted_of_countPut counts
  have entered := storage.continues_entered record id database
  have counted := counts_countPut (storage.entered record id database)
  rw [counts] at counted
  have continues : Continues storage after := entered.trans counted.continues
  have isView : after.view = database :=
    counted.view_eq_of_ok.trans (storage.view_entered record id database)
  have free (fires : storage.policy.fires (storage.pending + 1) = true) :
      storage.commitHindrance = none := by
    rw [← entered.commitHindrance_eq]
    refine counted.free_of_ok ?_ (storage.isWriting_entered record id database)
    rw [entered.policy_eq, storage.pending_entered, fires]
  cases fires : storage.policy.fires (storage.pending + 1) with
  | true =>
      rw [if_pos fires] at left
      obtain ⟨isCleared, isClosed, isCommitted⟩ := left
      refine ⟨continues.policy_eq, continues.commitHindrance_eq, ?_, ?_, ?_, free⟩ <;> rw [fires]
      · exact isCleared
      · exact isClosed
      · exact isCommitted.trans isView.symm
  | false =>
      rw [if_neg (by simp [fires])] at left
      obtain ⟨isCounted, isOpen, isKept⟩ := left
      refine ⟨continues.policy_eq, continues.commitHindrance_eq, ?_, ?_, ?_, free⟩ <;> rw [fires]
      · exact isCounted
      · exact isOpen
      · exact isKept

theorem succeeds_of_put
    {record : Record}
    {id : Int64}
    {after : Storage}
    (puts : storage.put record = (.ok id, after)) :
    storage.Succeeds after := by
  have becomes := storage.puts_put record
  rw [puts] at becomes
  generalize result : (Except.ok id, after) = pair at becomes
  cases becomes with
  | refused | failed => cases result
  | @stored _ _ counted _ _ _ counts =>
      cases counted with
      | error error => cases result
      | ok done =>
          cases result
          exact succeeds_of_countPut counts

/-- A put that fails is unsettled if it stores its record. -/
theorem isUnsettled_putStage_iff
    {record : Record}
    {error : Error}
    (fails : (storage.put record).1 = .error error) :
    (storage.putStage record).event = .unsettled ↔
      ∃ database, storage.Stores (.put record) database := by
  have notPassing (after : Storage) : (storage.passing after).event ≠ .unsettled := by
    rw [passing]
    split <;> simp
  constructor
  · intro isUnsettled
    have step : Step storage (storage.putStage record) := step_putStage record
    rw [putStage] at isUnsettled
    cases checked : storage.schema.check record with
    | error fault =>
        rw [enter_eq_of_misfit checked] at isUnsettled
        exact absurd isUnsettled (notPassing _)
    | ok accepted =>
        cases stores : storage.storeRecord record with
        | error error =>
            rw [enter_eq_of_error checked stores] at isUnsettled
            exact absurd isUnsettled (notPassing _)
        | ok stored => exact ⟨stored.2, record, stored.1, rfl, checked, stores⟩
  · rintro ⟨database, _, id, isPut, checked, stores⟩
    cases isPut
    rw [put, enter_eq_of_ok checked stores] at fails
    rw [putStage, enter_eq_of_ok checked stores]
    rcases counts : (storage.entered record id database).countPut with ⟨error | done, after⟩
    · simp only [counts]
    · simp only [counts] at fails
      contradiction

/-! ## Counting the records that are stored -/

theorem storedCount_of_misfit
    {records : List Record}
    {fault : RecordFault}
    (misfits : checkAll storage.schema records = .error fault) :
    storage.storedCount records = 0 := by
  rw [storedCount, stages, misfits]
  rfl

/-- The number of records that are stored one after the other. -/
def putCount (storage : Storage) (records : List Record) : Nat :=
  (storage.putStages records).countP fun stage =>
    stage.event = .stored ∨ stage.event = .unsettled

theorem storedCount_of_fit
    {records : List Record}
    (fit : checkAll storage.schema records = .ok ()) :
    storage.storedCount records = storage.putCount records := by
  rw [storedCount, stages, fit]
  rfl

theorem putStages_of_error
    {record : Record}
    {error : Error}
    {after : Storage}
    (puts : storage.put record = (.error error, after))
    (rest : List Record) :
    storage.putStages (record :: rest) = [storage.putStage record] := by
  have notStored : (storage.putStage record).event ≠ .stored := by
    simp [(storage.putStage_eq record).2, puts]
  rw [putStages, if_neg notStored]

/-- A put that fails has stored a record if that could not be committed. -/
theorem putCount_of_error
    {record : Record}
    {error : Error}
    {after : Storage}
    (puts : storage.put record = (.error error, after))
    (rest : List Record) :
    (storage.putCount (record :: rest) = 0 ∧
        ∀ database, ¬ storage.Stores (.put record) database) ∨
      (storage.putCount (record :: rest) = 1 ∧
        ∃ database, storage.Stores (.put record) database) := by
  have isUnsettled := storage.isUnsettled_putStage_iff (congrArg Prod.fst puts)
  have notStored : (storage.putStage record).event ≠ .stored := by
    simp [(storage.putStage_eq record).2, puts]
  rw [putCount, putStages_of_error puts]
  by_cases stores : ∃ database, storage.Stores (.put record) database
  · exact .inr ⟨by simp [isUnsettled.mpr stores], stores⟩
  · have notUnsettled : (storage.putStage record).event ≠ .unsettled := by
      simpa [isUnsettled] using stores
    exact .inl ⟨by simp [notStored, notUnsettled], not_exists.mp stores⟩

theorem putCount_of_ok
    {record : Record}
    {id : Int64}
    {after : Storage}
    (puts : storage.put record = (.ok id, after))
    (rest : List Record) :
    storage.putCount (record :: rest) = after.putCount rest + 1 := by
  obtain ⟨sameStorage, isStored⟩ := storage.putStage_eq record
  rw [puts] at sameStorage isStored
  have stored : (storage.putStage record).event = .stored := isStored.mpr ⟨id, rfl⟩
  rw [putCount, putStages, if_pos stored, sameStorage]
  simp [putCount, stored]

theorem committedCount_zero (storage : Storage) : storage.committedCount 0 = 0 := by
  rw [committedCount]
  split
  · exact AutoCommit.committedOf_zero _ _
  · rfl

theorem committedCount_succ
    {after : Storage}
    (succeeds : storage.Succeeds after)
    (stored : Nat) :
    storage.committedCount (stored + 1) =
      if storage.policy.fires (storage.pending + 1) then
        after.committedCount stored + 1
      else if after.committedCount stored = 0 then
        0
      else
        after.committedCount stored + 1 := by
  have free := succeeds.free
  simp only [committedCount, succeeds.commitHindrance_eq, succeeds.policy_eq, succeeds.pending_eq]
  split
  · rw [AutoCommit.committedOf_succ]
    cases storage.policy.fires (storage.pending + 1) <;> rfl
  · next hinders =>
      rw [if_neg fun fires => hinders (free fires)]
      rfl

/-! ## What is seen and what is committed -/

/-- What is committed in the end is what the storage saw at the last commit. -/
theorem committed_putEach (storage : Storage) (records : List Record) :
    let number := storage.committedCount (storage.putCount records)
    (storage.putEach records).2.committed =
      if number = 0 then storage.committed else (storage.putEach (records.take number)).2.view := by
  induction records generalizing storage with
  | nil =>
      have noPuts : storage.putCount [] = 0 := rfl
      rw [noPuts, committedCount_zero]
      rfl
  | cons record rest induction =>
      rcases puts : storage.put record with ⟨error | id, after⟩
      · have fails := fails_put (congrArg Prod.fst puts)
        rw [puts] at fails
        have none : storage.committedCount (storage.putCount (record :: rest)) = 0 := by
          rcases putCount_of_error puts rest with ⟨none, _⟩ | ⟨_, _, _, _, isPut, checked, stores⟩
          · rw [none, committedCount_zero]
          · -- A record that is stored and not committed shows that something hinders commits.
            cases isPut
            rw [committedCount, if_neg]
            intro free
            obtain ⟨after, succeeds, _⟩ := put_of_stores free checked stores
            cases puts.symm.trans succeeds
        rw [putEach_of_error puts, none]
        exact fails.committed_eq
      · have succeeds := succeeds_of_put puts
        have later := induction after
        dsimp only at later ⊢
        rw [succeeds.committed_eq] at later
        rw [putEach_of_ok puts, putCount_of_ok puts, committedCount_succ succeeds]
        cases fires : storage.policy.fires (storage.pending + 1) with
        | true =>
            simp only [fires, if_true] at later ⊢
            rw [if_neg (Nat.succ_ne_zero _), List.take_succ_cons, putEach_of_ok puts]
            split at later
            · next none =>
                rw [later, none, List.take_zero]
                rfl
            · exact later
        | false =>
            simp only [fires, Bool.false_eq_true, if_false] at later ⊢
            split
            · next none => rwa [if_pos none] at later
            · next some =>
                rw [if_neg some] at later
                rw [if_neg (Nat.succ_ne_zero _), List.take_succ_cons, putEach_of_ok puts]
                exact later

theorem putMany_eq_or (storage : Storage) (records : List Record) :
    ((∃ fault, storage.putMany records = (.error (.record fault), storage)) ∧
        storage.storedCount records = 0) ∨
      (storage.putMany records = storage.putEach records ∧
        storage.storedCount records = storage.putCount records) := by
  cases checks : checkAll storage.schema records with
  | error fault =>
      left
      rw [putMany, checks]
      exact ⟨⟨fault, rfl⟩, storedCount_of_misfit checks⟩
  | ok accepted =>
      right
      rw [putMany, checks]
      exact ⟨rfl, storedCount_of_fit checks⟩

theorem committed_putMany (storage : Storage) (records : List Record) :
    let number := storage.committedCount (storage.storedCount records)
    (storage.putMany records).2.committed =
      if number = 0 then storage.committed else (storage.putEach (records.take number)).2.view := by
  rcases storage.putMany_eq_or records with ⟨⟨fault, same⟩, none⟩ | ⟨same, count⟩
  · rw [same, none, committedCount_zero]
    rfl
  · rw [same, count]
    exact storage.committed_putEach records

end Storage

namespace Session

variable {session : Session} {place : Path.Place}

end Session

end RecordStore
