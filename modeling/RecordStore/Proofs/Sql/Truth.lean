import RecordStore.Sql.Truth

/-!
# Outcomes of connectives

A conjunction holds when all of it holds, and a disjunction when any of it
does; a disjunction fails when all of it fails.  Neither is unknown unless
something in it is.
-/

namespace RecordStore.Sql.Truth

/-! ## Outcomes that hold -/

theorem and_eq_holds_iff (left right : Truth) :
    left.and right = holds ↔ left = holds ∧ right = holds := by
  cases left <;> cases right <;> decide

theorem or_eq_holds_iff (left right : Truth) :
    left.or right = holds ↔ left = holds ∨ right = holds := by
  cases left <;> cases right <;> decide

theorem all_eq_holds_iff (outcomes : List Truth) :
    all outcomes = holds ↔ ∀ outcome ∈ outcomes, outcome = holds := by
  induction outcomes with
  | nil => simp [all]
  | cons first rest induction =>
      rw [all, List.foldr_cons, and_eq_holds_iff, List.forall_mem_cons, ← induction]
      rfl

theorem any_eq_holds_iff (outcomes : List Truth) :
    any outcomes = holds ↔ ∃ outcome ∈ outcomes, outcome = holds := by
  induction outcomes with
  | nil => simp [any]
  | cons first rest induction =>
      rw [any, List.foldr_cons, or_eq_holds_iff]
      simp only [List.mem_cons, exists_eq_or_imp, ← induction]
      rfl

theorem ofBool_eq_holds_iff (test : Bool) : ofBool test = holds ↔ test = true := by
  cases test <;> decide

/-! ## Outcomes that fail -/

theorem or_eq_fails_iff (left right : Truth) :
    left.or right = fails ↔ left = fails ∧ right = fails := by
  cases left <;> cases right <;> decide

theorem any_eq_fails_iff (outcomes : List Truth) :
    any outcomes = fails ↔ ∀ outcome ∈ outcomes, outcome = fails := by
  induction outcomes with
  | nil => simp [any]
  | cons first rest induction =>
      rw [any, List.foldr_cons, or_eq_fails_iff, List.forall_mem_cons, ← induction]
      rfl

/-! ## Outcomes that are unknown -/

theorem ofBool_ne_unknown (test : Bool) : ofBool test ≠ unknown := by
  cases test <;> decide

theorem negateIf_eq_unknown_iff (negated : Bool) (outcome : Truth) :
    outcome.negateIf negated = unknown ↔ outcome = unknown := by
  cases negated <;> cases outcome <;> decide

theorem eq_unknown_of_and (left right : Truth) :
    left.and right = unknown → left = unknown ∨ right = unknown := by
  cases left <;> cases right <;> decide

theorem eq_unknown_of_or (left right : Truth) :
    left.or right = unknown → left = unknown ∨ right = unknown := by
  cases left <;> cases right <;> decide

theorem unknown_mem_of_all
    {outcomes : List Truth}
    (isUnknown : all outcomes = unknown) :
    unknown ∈ outcomes := by
  induction outcomes with
  | nil => contradiction
  | cons first rest induction =>
      rcases eq_unknown_of_and first (all rest) isUnknown with rfl | inRest
      · exact List.mem_cons_self
      · exact List.mem_cons_of_mem first (induction inRest)

theorem unknown_mem_of_any
    {outcomes : List Truth}
    (isUnknown : any outcomes = unknown) :
    unknown ∈ outcomes := by
  induction outcomes with
  | nil => contradiction
  | cons first rest induction =>
      rcases eq_unknown_of_or first (any rest) isUnknown with rfl | inRest
      · exact List.mem_cons_self
      · exact List.mem_cons_of_mem first (induction inRest)

/-- A disjunction is unknown when something in it is, and nothing holds. -/
theorem any_eq_unknown_iff (outcomes : List Truth) :
    any outcomes = unknown ↔ unknown ∈ outcomes ∧ ∀ outcome ∈ outcomes, outcome ≠ holds := by
  constructor
  · intro isUnknown
    refine ⟨unknown_mem_of_any isUnknown, ?_⟩
    intro outcome member isHolds
    have holds := (any_eq_holds_iff outcomes).mpr ⟨outcome, member, isHolds⟩
    rw [isUnknown] at holds
    contradiction
  · rintro ⟨hasUnknown, noneHolds⟩
    cases isOutcome : any outcomes with
    | unknown => rfl
    | holds =>
        rcases (any_eq_holds_iff outcomes).mp isOutcome with ⟨outcome, member, isHolds⟩
        exact absurd isHolds (noneHolds outcome member)
    | fails =>
        have isFails := (any_eq_fails_iff outcomes).mp isOutcome unknown hasUnknown
        contradiction

end RecordStore.Sql.Truth
