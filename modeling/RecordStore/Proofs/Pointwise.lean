import Mathlib.Data.List.Forall2
import RecordStore.Proofs.Outcome

/-!
# Lists related member by member

Objects and arrays are read member by member, which relates the list that is
read to the list that comes out.  These lemmas follow one member from one
list to the other.
-/

namespace RecordStore.Pointwise

open List (Forall₂)

variable {α β : Type} {related : α → β → Prop}

/-- Related lists are empty together. -/
theorem eq_nil_iff
    {first : List α}
    {second : List β}
    (each : Forall₂ related first second) :
    first = [] ↔ second = [] := by
  cases each with
  | nil => simp
  | cons headRelated following => simp

/-- A member of the first list is related to one of the second. -/
theorem exists_right
    {first : List α}
    {second : List β}
    (each : Forall₂ related first second)
    {left : α}
    (member : left ∈ first) :
    ∃ right ∈ second, related left right := by
  induction each with
  | nil => contradiction
  | @cons head other firsts seconds headRelated following induction =>
      rcases List.mem_cons.mp member with rfl | inRest
      · exact ⟨other, List.mem_cons_self, headRelated⟩
      · rcases induction inRest with ⟨right, isMember, isRelated⟩
        exact ⟨right, List.mem_cons_of_mem other isMember, isRelated⟩

/-- A member of the second list is related to one of the first. -/
theorem exists_left
    {first : List α}
    {second : List β}
    (each : Forall₂ related first second)
    {right : β}
    (member : right ∈ second) :
    ∃ left ∈ first, related left right := by
  exact exists_right each.flip member

/-- A list all of whose members are related to something is related to a list. -/
theorem exists_related
    {first : List α}
    (each : ∀ left ∈ first, ∃ right, related left right) :
    ∃ second, Forall₂ related first second := by
  induction first with
  | nil => exact ⟨[], .nil⟩
  | cons head rest induction =>
      rcases each head List.mem_cons_self with ⟨right, headRelated⟩
      rcases
          induction fun left member => each left (List.mem_cons_of_mem head member) with
        ⟨second, following⟩
      exact ⟨right :: second, .cons headRelated following⟩

/-- Lists are joined to the same from two related lists. -/
theorem flatMap_eq
    {γ : Type}
    {first : List α}
    {second : List β}
    (each : Forall₂ related first second)
    {left : α → List γ}
    {right : β → List γ}
    (same : ∀ one ∈ first, ∀ other, related one other → left one = right other) :
    first.flatMap left = second.flatMap right := by
  induction each with
  | nil => rfl
  | @cons one other firsts seconds isRelated following induction =>
      have restSame :=
        induction fun member isMember => same member (List.mem_cons_of_mem one isMember)
      rw [List.flatMap_cons, List.flatMap_cons, restSame,
        same one List.mem_cons_self other isRelated]

/-- A list is turned into another one when each of its members is. -/
theorem mapM_eq_ok_iff
    {ε : Type}
    {next : α → Except ε β}
    {first : List α}
    {second : List β} :
    first.mapM next = .ok second ↔
      Forall₂ (fun left right => next left = .ok right) first second := by
  induction first generalizing second with
  | nil =>
      rw [List.mapM_nil, List.forall₂_nil_left_iff]
      exact ⟨fun same => (Except.ok.inj same).symm, fun same => congrArg Except.ok same.symm⟩
  | cons head rest induction =>
      rw [List.mapM_cons, Outcome.bind_eq_ok_iff, List.forall₂_cons_left_iff]
      constructor
      · rintro ⟨right, isRight, succeeds⟩
        rcases Outcome.bind_eq_ok_iff.mp succeeds with ⟨rights, areRights, isSecond⟩
        exact ⟨right, rights, isRight, induction.mp areRights, (Except.ok.inj isSecond).symm⟩
      · rintro ⟨right, rights, isRight, areRights, rfl⟩
        refine ⟨right, isRight, ?_⟩
        rw [induction.mpr areRights]
        rfl

end RecordStore.Pointwise
