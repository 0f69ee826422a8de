import RecordStore.Proofs.Storage.Step

/-!
# What is seen and committed after a stage

A stage that rests leaves what is committed as it is, and what is seen as well
unless the transaction is lost.  Where a put is counted, a commit shows
everybody what was seen.  Only a stage that nothing hinders, or only what keeps
a lock that was taken, has the transaction take the lock for writing.

Main statements: `Storage.Rests.view_eq_or`, `Storage.Counts.committed_eq_or`
and `Storage.notWriting_of_step`.
-/

namespace RecordStore.Storage

theorem view_of_notWriting {storage : Storage} (notWriting : storage.isWriting = false) :
    storage.view = storage.committed := by
  rw [view]
  split
  · next isTransaction =>
      rw [(isWriting_iff storage).mpr ⟨_, _, isTransaction⟩] at notWriting
      contradiction
  · rfl

@[simp]
theorem committed_hold (storage : Storage) : storage.hold.committed = storage.committed := by
  rw [hold]
  split <;> rfl

@[simp]
theorem isWriting_hold (storage : Storage) : storage.hold.isWriting = storage.isWriting := by
  rw [hold]
  split
  · next isBegun => simp [isWriting, lock?, isBegun, Lock.isWriting]
  · rfl

/-- While a stage rests it commits nothing, and changes are kept, or lost with the transaction. -/
theorem Rests.committed_eq {before after : Storage} (rests : before.Rests after) :
    after.committed = before.committed := by
  cases rests <;> simp [take, wait, close]

theorem Rests.view_eq_or {before after : Storage} (rests : before.Rests after) :
    after.view = before.view ∨ (after = before.close ∧ after.view = before.committed) := by
  cases rests with
  | lost => exact .inr ⟨rfl, rfl⟩
  | waiting => exact .inl rfl
  | same | held | begun | begunHeld | taken => exact .inl (by simp)

/-- A stage that rests takes the lock for writing only where nothing else hinders that. -/
theorem Rests.isWriting_or {before after : Storage} (rests : before.Rests after) :
    (after.isWriting = true → before.isWriting = true) ∨ before.MayTakeLock := by
  cases rests with
  | taken mayTakeLock => exact .inr mayTakeLock
  | lost => exact .inl (by simp [close, isWriting, lock?])
  | waiting isWriting => exact .inl fun _ => isWriting
  | same | held | begun | begunHeld => exact .inl (by simp)

/-! ## Counting -/

theorem Counts.view_eq_of_ok
    {storage after : Storage}
    {done : Unit}
    (counts : storage.Counts (.ok done, after)) :
    after.view = storage.view := by
  cases counts with
  | counted => rfl
  | committed _ settles =>
      cases settles with
      | published => rfl

/-- What is committed once a put is counted was committed before, or is what was seen. -/
theorem Counts.committed_eq_or
    {storage : Storage}
    {result : Except Error Unit × Storage}
    (counts : storage.Counts result) :
    result.2.committed = storage.committed ∨ result.2.committed = storage.view := by
  cases counts with
  | counted => exact .inl rfl
  | committed _ settles =>
      cases settles with
      | published => exact .inr rfl
      | waiting | lost => exact .inl rfl

/-- What is seen once a put is counted was seen before, or the transaction is lost. -/
theorem Counts.view_eq_or
    {storage : Storage}
    {result : Except Error Unit × Storage}
    (counts : storage.Counts result) :
    result.2.view = storage.view ∨ result.2.view = storage.committed := by
  cases counts with
  | counted => exact .inl rfl
  | committed _ settles =>
      cases settles with
      | published | waiting => exact .inl rfl
      | lost => exact .inr rfl

/-- Where nothing hinders a commit, counting a put does not fail. -/
theorem Counts.ne_error
    {storage after : Storage}
    {error : Error}
    (counts : storage.Counts (.error error, after)) :
    storage.commitHindrance ≠ none := by
  cases counts with
  | committed _ settles =>
      cases settles with
      | waiting _ hinders | lost _ hinders => exact Option.ne_none_iff_exists'.mpr ⟨_, hinders⟩

/-- Nothing hinders a commit that counting a put has carried out. -/
theorem Counts.free_of_ok
    {storage after : Storage}
    {done : Unit}
    (counts : storage.Counts (.ok done, after))
    (fires : storage.policy.fires (storage.pending + 1) = true)
    (isWriting : storage.isWriting = true) :
    storage.commitHindrance = none := by
  cases counts with
  | counted waits => cases waits.symm.trans fires
  | committed _ settles =>
      cases settles with
      | published free => exact free isWriting

/-! ## Puts -/

/-- A put that stores its record succeeds where nothing hinders a commit. -/
theorem put_of_stores
    {storage : Storage}
    (free : storage.commitHindrance = none)
    {record : Record}
    (checked : storage.schema.check record = .ok ())
    {id : Int64}
    {database : Database}
    (stores : storage.storeRecord record = .ok (id, database)) :
    ∃ after, storage.put record = (.ok id, after) ∧ after.view = database := by
  have counted := counts_countPut (storage.entered record id database)
  rw [put, enter_eq_of_ok checked stores]
  dsimp only
  rcases result : (storage.entered record id database).countPut with ⟨error | done, after⟩
  · rw [result] at counted
    have hinders := counted.ne_error
    rw [(storage.continues_entered record id database).commitHindrance_eq] at hinders
    exact absurd free hinders
  · rw [result] at counted
    exact ⟨after, rfl, counted.view_eq_of_ok.trans (storage.view_entered record id database)⟩

theorem put_of_refuses
    {storage : Storage}
    {record : Record}
    (checked : storage.schema.check record = .ok ())
    {error : Error}
    (refuses : storage.storeRecord record = .error error) :
    storage.put record = (.error error, storage.begin.abandon error) := by
  rw [put, enter_eq_of_error checked refuses]

/-- A failure that does not end the transaction leaves what is seen as it is. -/
theorem view_abandon (storage : Storage) {error : Error} (goesOn : error.aftermath ≠ .ended) :
    (storage.abandon error).view = storage.view := by
  rw [abandon]
  split
  · rfl
  · exact storage.view_hold
  · rfl
  · next ends => exact absurd ends goesOn

/-! ## Writing -/

/-- Rows are removed where nothing hinders that. -/
theorem free_of_removed
    {storage : Storage}
    {α : Type}
    {outcome : Except DatabaseFault α}
    {result : α}
    (removes : storage.begin.writing outcome = .ok result) :
    storage.writeHindrance = none := by
  rw [← storage.continues_begin.writeHindrance_eq]
  exact (writing_eq_ok_iff.mp removes).1

/-- A storage that may not take the lock for writing does not write. -/
theorem notWriting_of_step
    {storage : Storage}
    {stage : Stage}
    (step : Step storage stage)
    (mayNot : ¬ storage.MayTakeLock)
    (notWriting : storage.isWriting = false) :
    stage.storage.isWriting = false := by
  have hinders : storage.writeHindrance ≠ none := fun free => mayNot (mayTakeLock_of_free free)
  cases step with
  | rested rests =>
      rcases rests.isWriting_or with kept | may
      · exact Bool.eq_false_iff.mpr fun writes => Bool.eq_false_iff.mp notWriting (kept writes)
      · exact absurd may mayNot
  | removed deletes => exact absurd (free_of_removed deletes) hinders
  | stored checked stores | unsettled checked stores =>
      exact absurd (of_storeRecord checked stores).1 hinders
  | committed => rfl

end RecordStore.Storage
