/-!
# Outcomes in sequence

A computation that can fail goes on after a success and stops at a fault.
These lemmas take such sequences apart, so that the proofs about readers and
validators never unfold the sequencing itself.
-/

namespace RecordStore.Outcome

variable {ε φ α β : Type}

@[simp]
theorem ok_bind (value : α) (next : α → Except ε β) :
    (Except.ok value >>= next) = next value :=
  rfl

@[simp]
theorem error_bind (fault : ε) (next : α → Except ε β) :
    (Except.error fault >>= next) = .error fault :=
  rfl

theorem bind_eq_ok_iff
    {first : Except ε α}
    {next : α → Except ε β}
    {result : β} :
    (first >>= next) = .ok result ↔
      ∃ value, first = .ok value ∧ next value = .ok result := by
  cases first with
  | error fault => simp
  | ok value => simp

/-- A sequence fails with the fault of its first part, or of the second part after it. -/
theorem bind_eq_error_iff
    {first : Except ε α}
    {next : α → Except ε β}
    {fault : ε} :
    (first >>= next) = .error fault ↔
      first = .error fault ∨ ∃ value, first = .ok value ∧ next value = .error fault := by
  cases first with
  | error fault => simp
  | ok value => simp

@[simp]
theorem mapError_ok (translate : ε → φ) (value : α) :
    (Except.ok value).mapError translate = .ok value :=
  rfl

@[simp]
theorem mapError_error (translate : ε → φ) (fault : ε) :
    (Except.error fault : Except ε α).mapError translate = .error (translate fault) :=
  rfl

theorem mapError_eq_ok_iff
    {first : Except ε α}
    {translate : ε → φ}
    {result : α} :
    first.mapError translate = .ok result ↔ first = .ok result := by
  cases first with
  | error fault => simp
  | ok value => simp

theorem mapError_eq_error_iff
    {first : Except ε α}
    {translate : ε → φ}
    {fault : φ} :
    first.mapError translate = .error fault ↔
      ∃ origin, first = .error origin ∧ translate origin = fault := by
  cases first with
  | error origin => simp
  | ok value => simp

/-- A list is refused for its first member that is, whatever follows it. -/
theorem mapM_eq_error_iff
    {next : α → Except ε β}
    {list : List α}
    {fault : ε} :
    list.mapM next = .error fault ↔
      ∃ before value after, list = before ++ value :: after ∧
        (∀ earlier ∈ before, ∃ result, next earlier = .ok result) ∧
        next value = .error fault := by
  induction list with
  | nil =>
      rw [List.mapM_nil]
      simp [pure, Except.pure]
  | cons first rest induction =>
      rw [List.mapM_cons, bind_eq_error_iff]
      constructor
      · rintro (atFirst | ⟨head, isHead, refused⟩)
        · exact ⟨[], first, rest, rfl, by simp, atFirst⟩
        · rcases bind_eq_error_iff.mp refused with inRest | ⟨others, -, done⟩
          · rcases induction.mp inRest with ⟨before, value, after, rfl, succeed, atValue⟩
            refine ⟨first :: before, value, after, rfl, ?_, atValue⟩
            exact List.forall_mem_cons.mpr ⟨⟨head, isHead⟩, succeed⟩
          · contradiction
      · rintro ⟨before, value, after, spelled, succeed, atValue⟩
        cases before with
        | nil =>
            cases spelled
            exact .inl atValue
        | cons head before =>
            cases spelled
            rcases List.forall_mem_cons.mp succeed with ⟨⟨result, isResult⟩, others⟩
            have inRest := induction.mpr ⟨before, value, after, rfl, others, atValue⟩
            exact .inr ⟨result, isResult, bind_eq_error_iff.mpr (.inl inRest)⟩

theorem map_eq_ok_iff
    {first : Except ε α}
    {next : α → β}
    {result : β} :
    first.map next = .ok result ↔ ∃ value, first = .ok value ∧ next value = result := by
  cases first with
  | error fault => simp [Except.map]
  | ok value => simp [Except.map]

theorem map_eq_error_iff
    {first : Except ε α}
    {next : α → β}
    {fault : ε} :
    first.map next = .error fault ↔ first = .error fault := by
  cases first with
  | error origin => simp [Except.map]
  | ok value => simp [Except.map]

theorem eq_ok_of_toOption
    {first : Except ε α}
    {result : α}
    (succeeds : first.toOption = some result) :
    first = .ok result := by
  cases first with
  | error fault => contradiction
  | ok value =>
      cases succeeds
      rfl

end RecordStore.Outcome
