import Mathlib.Data.List.Perm.Basic
import RecordStore.Criteria.Order
import RecordStore.Proofs.Criteria.Mention
import RecordStore.Proofs.Json
import RecordStore.Proofs.Restriction

/-!
# The order of a filter carries no meaning

Criteria mean the same and test the same fields in whatever order they and
the branches of their groups are.  A filter in another order is read as
criteria that differ in their order alone.  Two filters are put together to
one that means their conjunction or their disjunction.

Main statements: `Criteria.ofMembers_of_reorders`, `Criteria.ofFilter_combined`
and `Filter.merge_eq_append`.
-/

namespace RecordStore

open Sql (Interpretation Truth)

/-! ## Outcomes in another order -/

namespace Sql.Truth

instance : LeftCommutative and :=
  ⟨fun first second third => by rw [← and_assoc, and_comm first, and_assoc]⟩

instance : LeftCommutative or :=
  ⟨fun first second third => by rw [← or_assoc, or_comm first, or_assoc]⟩

end Sql.Truth

theorem Junction.combine_perm
    (junction : Junction)
    {outcomes others : List Truth}
    (isPerm : outcomes.Perm others) :
    junction.combine outcomes = junction.combine others := by
  cases junction with
  | and => exact isPerm.foldr_eq _
  | or => exact isPerm.foldr_eq _

/-! ## Lists of which one member changes -/

namespace Pointwise

open List (Forall₂)

variable {α β : Type} {related : α → β → Prop}

/-- What is related to a list changes in one place when one member of the list is exchanged. -/
theorem exists_exchanged
    {same : β → β → Prop}
    (sameSelf : ∀ right, same right right)
    {left other : α}
    (exchanges :
      ∀ right, related left right → ∃ changed, related other changed ∧ same right changed)
    {before after : List α}
    {second : List β}
    (each : Forall₂ related (before ++ left :: after) second) :
    ∃ changed,
      Forall₂ related (before ++ other :: after) changed ∧ Forall₂ same second changed := by
  induction before generalizing second with
  | nil =>
      cases each with
      | cons isRelated following =>
          rcases exchanges _ isRelated with ⟨right, isRight, isSame⟩
          exact ⟨right :: _, .cons isRight following, .cons isSame (List.forall₂_same.mpr
            fun member _ => sameSelf member)⟩
  | cons head rest induction =>
      cases each with
      | cons isRelated following =>
          rcases induction following with ⟨changed, isChanged, areSame⟩
          exact ⟨_, .cons isRelated isChanged, .cons (sameSelf _) areSame⟩

/-- What is related to a list is in another order when the list is. -/
theorem exists_perm
    {first others : List α}
    (isPerm : first.Perm others)
    {second : List β}
    (each : Forall₂ related first second) :
    ∃ changed, Forall₂ related others changed ∧ second.Perm changed := by
  rcases List.perm_comp_forall₂ isPerm.symm each with ⟨changed, isRelated, isChanged⟩
  exact ⟨changed, isRelated, isChanged.symm⟩

end Pointwise

/-! ## Criteria that are alike -/

/-- The criterions have the same outcomes and test the same fields. -/
structure Criterion.Alike (first second : Criterion) : Prop where
  outcome :
    ∀ interpretation,
      Criteria.evalCriterion interpretation first = Criteria.evalCriterion interpretation second
  fields : (Criteria.criterionFields first).Perm (Criteria.criterionFields second)

namespace Criteria

/-- The criteria have the same outcomes, test the same fields, and are empty together. -/
structure Alike (first second : Criteria) : Prop where
  outcome : ∀ interpretation, eval interpretation first = eval interpretation second
  fields : (fields first).Perm (fields second)
  nothing : first = [] ↔ second = []

namespace Alike

theorem refl (criteria : Criteria) : Alike criteria criteria :=
  ⟨fun _ => rfl, .refl _, .rfl⟩

theorem trans
    {first second third : Criteria}
    (earlier : Alike first second)
    (later : Alike second third) :
    Alike first third :=
  ⟨fun interpretation => (earlier.outcome interpretation).trans (later.outcome interpretation),
    earlier.fields.trans later.fields, earlier.nothing.trans later.nothing⟩

theorem of_perm
    {first second : Criteria}
    (isPerm : first.Perm second) :
    Alike first second := by
  constructor
  · intro interpretation
    rw [eval_eq_all, eval_eq_all]
    exact Junction.and.combine_perm (isPerm.map _)
  · rw [fields_eq_flatMap, fields_eq_flatMap]
    exact isPerm.flatMap_right _
  · constructor
    · rintro rfl
      exact isPerm.symm.eq_nil
    · rintro rfl
      exact isPerm.eq_nil

theorem of_forall₂
    {first second : Criteria}
    (each : List.Forall₂ Criterion.Alike first second) :
    Alike first second := by
  induction each with
  | nil => exact .refl []
  | @cons one other firsts seconds isAlike following induction =>
      constructor
      · intro interpretation
        rw [eval, eval, isAlike.outcome, induction.outcome]
      · exact isAlike.fields.append induction.fields
      · simp

end Alike

end Criteria

namespace Criterion.Alike

theorem refl (criterion : Criterion) : Alike criterion criterion :=
  ⟨fun _ => rfl, .refl _⟩

theorem trans
    {first second third : Criterion}
    (earlier : Alike first second)
    (later : Alike second third) :
    Alike first third :=
  ⟨fun interpretation => (earlier.outcome interpretation).trans (later.outcome interpretation),
    earlier.fields.trans later.fields⟩

end Criterion.Alike

namespace Criteria

/-- In some order, the branches are alike one by one. -/
def BranchesAlike (branches others : List Criteria) : Prop :=
  ∃ permuted, branches.Perm permuted ∧ List.Forall₂ Alike permuted others

namespace BranchesAlike

variable {branches others : List Criteria}

theorem of_perm (isPerm : branches.Perm others) : BranchesAlike branches others :=
  ⟨others, isPerm, List.forall₂_same.mpr fun branch _ => .refl branch⟩

theorem of_forall₂ (each : List.Forall₂ Alike branches others) : BranchesAlike branches others :=
  ⟨branches, .refl branches, each⟩

theorem ne_nil (areAlike : BranchesAlike branches others) (hasBranch : branches ≠ []) :
    others ≠ [] := by
  rcases areAlike with ⟨permuted, isPerm, each⟩
  rintro rfl
  cases each
  exact hasBranch isPerm.eq_nil

theorem nonempty
    (areAlike : BranchesAlike branches others)
    (nonempty : ∀ branch ∈ branches, branch ≠ [])
    (other : Criteria)
    (member : other ∈ others) :
    other ≠ [] := by
  rcases areAlike with ⟨permuted, isPerm, each⟩
  rcases Pointwise.exists_left each member with ⟨branch, isBranch, isAlike⟩
  exact mt isAlike.nothing.mpr (nonempty branch (isPerm.mem_iff.mpr isBranch))

/-- Branches that are alike have the same outcomes, in some order. -/
theorem outcomes
    (areAlike : BranchesAlike branches others)
    (interpretation : Interpretation Value) :
    (evalBranches interpretation branches).Perm (evalBranches interpretation others) := by
  rcases areAlike with ⟨permuted, isPerm, each⟩
  rw [evalBranches_eq_map, evalBranches_eq_map]
  apply (isPerm.map _).trans
  have same : permuted.map (eval interpretation) = others.map (eval interpretation) := by
    clear isPerm
    induction each with
    | nil => rfl
    | cons isAlike following induction =>
        rw [List.map_cons, List.map_cons, isAlike.outcome, induction]
  rw [same]

theorem fields (areAlike : BranchesAlike branches others) :
    (branchesFields branches).Perm (branchesFields others) := by
  rcases areAlike with ⟨permuted, isPerm, each⟩
  rw [branchesFields_eq_flatMap, branchesFields_eq_flatMap]
  apply (isPerm.flatMap_right _).trans
  clear isPerm
  induction each with
  | nil => exact .refl _
  | cons isAlike following induction => exact isAlike.fields.append induction

end BranchesAlike

end Criteria

/-- Groups are alike when their branches are. -/
theorem Criterion.Alike.group
    (junction : Junction)
    {branches others : List Criteria}
    (areAlike : Criteria.BranchesAlike branches others) :
    Alike (.group junction branches) (.group junction others) :=
  ⟨fun interpretation => junction.combine_perm (areAlike.outcomes interpretation),
    areAlike.fields⟩

/-! ## Values in another order -/

namespace Filter

/-- The key of an operator introduces no group. -/
theorem Fits.ofKey?_eq_none
    {key : String}
    {operand : Json}
    (fits : Fits key operand) :
    Junction.ofKey? key = none := by
  cases fits with
  | @equality comparison _ _ _ isKey =>
      cases comparison <;> rcases List.mem_pair.mp isKey with rfl | rfl <;> decide
  | @ordering comparison _ _ _ isKey =>
      cases comparison <;> rcases List.mem_pair.mp isKey with rfl | rfl <;> decide
  | @membership negated _ _ isKey =>
      cases negated <;> rcases List.mem_pair.mp isKey with rfl | rfl <;> decide
  | nullity isKey =>
      rcases List.mem_pair.mp isKey with rfl | rfl <;> decide

/-- An operand is a scalar or an array of scalars. -/
def IsOperand (value : Json) : Prop :=
  value.IsScalar ∨ ∃ elements, value = .array elements ∧ ∀ element ∈ elements, element.IsScalar

theorem Fits.isOperand
    {key : String}
    {operand : Json}
    (fits : Fits key operand) :
    IsOperand operand := by
  cases fits with
  | equality _ _ isScalar => exact .inl isScalar
  | ordering _ _ isScalar => exact .inl isScalar
  | membership _ _ areScalars =>
      exact .inr ⟨_, rfl, fun element member => (areScalars element member).1⟩
  | nullity => exact .inl trivial

end Filter

/-- There is no other order of an operand. -/
theorem Json.Reorders.eq_of_isOperand
    {value other : Json}
    (reorders : value.Reorders other)
    (isOperand : Filter.IsOperand value) :
    other = value := by
  have noObject {members : List (String × Json)} : ¬ Filter.IsOperand (.object members) := by
    rintro (isScalar | ⟨elements, spelled, -⟩)
    · exact isScalar
    · contradiction
  induction reorders with
  | same value => rfl
  | trans earlier later earlierSame laterSame =>
      cases earlierSame isOperand
      exact laterSame isOperand
  | entries | branches | member => exact absurd isOperand noObject
  | @element before after value other inner induction =>
      rcases isOperand with isScalar | ⟨elements, spelled, areScalars⟩
      · exact isScalar.elim
      · cases spelled
        have isScalar : value.IsScalar := areScalars value (by simp)
        rw [induction (.inl isScalar)]

namespace Criteria

/-- An object in a filter is read as criteria of which a relation holds. -/
def IsReadAs (value : Json) (criteria : Criteria) : Prop :=
  ∃ members, value = .object members ∧ ofMembers members = .ok criteria

theorem ofBranches_eq_ok_iff_isReadAs
    (junction : Junction)
    (items : List Json)
    (branches : List Criteria) :
    ofBranches junction items = .ok branches ↔ List.Forall₂ IsReadAs items branches := by
  rw [ofBranches_eq_ok_iff]
  constructor
  · rintro ⟨objects, rfl, each⟩
    exact List.forall₂_map_left_iff.mpr
      (each.imp fun members criteria read => ⟨members, rfl, read⟩)
  · intro each
    induction each with
    | nil => exact ⟨[], rfl, .nil⟩
    | cons isRead following induction =>
        rcases isRead with ⟨members, rfl, read⟩
        rcases induction with ⟨objects, rfl, others⟩
        exact ⟨members :: objects, rfl, .cons read others⟩

/-- A group is read if its branches are read as ones that are alike those of one that is read. -/
theorem ofMember_of_branches
    {junction : Junction}
    {items others : List Json}
    {criterion : Criterion}
    (read : ofMember junction.key (.array items) = .ok criterion)
    (changes :
      ∀ branches, List.Forall₂ IsReadAs items branches →
        ∃ changed, List.Forall₂ IsReadAs others changed ∧ BranchesAlike branches changed) :
    ∃ changed, ofMember junction.key (.array others) = .ok changed ∧ criterion.Alike changed := by
  rcases (ofMember_key_eq_ok_iff junction _ criterion).mp read with
    ⟨_, branches, spelled, branchesRead, validated⟩
  cases spelled
  rcases (validate_group_eq_ok_iff junction branches criterion).mp validated with
    ⟨hasBranch, nonempty, rfl⟩
  rcases changes branches ((ofBranches_eq_ok_iff_isReadAs junction items branches).mp branchesRead)
    with ⟨changed, isRead, areAlike⟩
  refine ⟨.group junction changed, ?_, .group junction areAlike⟩
  apply (ofMember_key_eq_ok_iff junction _ _).mpr
  refine ⟨others, changed, rfl, ?_, ?_⟩
  · exact (ofBranches_eq_ok_iff_isReadAs junction others changed).mpr isRead
  · exact (validate_group_eq_ok_iff junction changed _).mpr
      ⟨areAlike.ne_nil hasBranch, areAlike.nonempty nonempty, rfl⟩

/-- There is no other order of what tests a field. -/
theorem IsTest.eq_of_reorders
    {value other : Json}
    (isTest : IsTest value)
    (reorders : value.Reorders other) :
    other = value := by
  -- What tests a field has at most one entry, whose value is an operand.
  have only
      {before after : List (String × Json)}
      {key : String}
      {operand : Json}
      (isTest : IsTest (.object (before ++ (key, operand) :: after))) :
      Filter.Fits key operand := by
    generalize spelled : before ++ (key, operand) :: after = members at isTest
    cases isTest with
    | scalar isScalar => exact isScalar.elim
    | descriptor fits =>
        rcases List.append_eq_singleton_iff.mp spelled with ⟨_, same⟩ | ⟨_, same⟩
        · cases same
          exact fits
        · contradiction
  induction reorders with
  | same value => rfl
  | trans earlier later earlierSame laterSame =>
      cases earlierSame isTest
      exact laterSame isTest
  | entries isPerm =>
      cases isTest with
      | scalar isScalar => exact isScalar.elim
      | descriptor fits => rw [List.perm_singleton.mp isPerm.symm]
  | branches before after junction isPerm =>
      have noGroup := (only isTest).ofKey?_eq_none
      rw [Junction.ofKey?_key] at noGroup
      contradiction
  | member before after key inner induction =>
      rw [inner.eq_of_isOperand (only isTest).isOperand]
  | element before after inner induction =>
      cases isTest with
      | scalar isScalar => exact isScalar.elim

/-! ## Filters in another order -/

/-- However a value is read as the value of an entry, another one is read as an alike criterion. -/
def ReadAlike (value other : Json) : Prop :=
  ∀ key criterion, ofMember key value = .ok criterion →
    ∃ changed, ofMember key other = .ok changed ∧ criterion.Alike changed

/-- However a value is read as a branch, another one is read as alike criteria. -/
def ReadAlikeAsBranch (value other : Json) : Prop :=
  ∀ criteria, IsReadAs value criteria →
    ∃ changed, IsReadAs other changed ∧ criteria.Alike changed

theorem ReadAlike.trans
    {first second third : Json}
    (earlier : ReadAlike first second)
    (later : ReadAlike second third) :
    ReadAlike first third := by
  intro key criterion read
  rcases earlier key criterion read with ⟨middle, middleRead, isAlike⟩
  rcases later key middle middleRead with ⟨changed, changedRead, isAlikeToo⟩
  exact ⟨changed, changedRead, isAlike.trans isAlikeToo⟩

theorem ReadAlikeAsBranch.trans
    {first second third : Json}
    (earlier : ReadAlikeAsBranch first second)
    (later : ReadAlikeAsBranch second third) :
    ReadAlikeAsBranch first third := by
  intro criteria read
  rcases earlier criteria read with ⟨middle, middleRead, isAlike⟩
  rcases later middle middleRead with ⟨changed, changedRead, isAlikeToo⟩
  exact ⟨changed, changedRead, isAlike.trans isAlikeToo⟩

theorem readAlike_of_isTest
    {value other : Json}
    (reorders : value.Reorders other)
    (noArray : ∀ elements, value ≠ .array elements) :
    ReadAlike value other := by
  intro key criterion read
  cases found : Junction.ofKey? key with
  | none =>
      rw [ofMember_of_ofKey?_eq_none found] at read
      have isTest := ((exists_readCondition_iff key value).mp ⟨criterion, read⟩).2
      rw [isTest.eq_of_reorders reorders, ofMember_of_ofKey?_eq_none found]
      exact ⟨criterion, read, .refl criterion⟩
  | some junction =>
      cases (Junction.ofKey?_eq_some_iff key junction).mp found
      rcases (ofMember_key_eq_ok_iff junction value criterion).mp read with ⟨items, _, spelled, _⟩
      exact absurd spelled (noArray items)

/-- An array is read as the branches of a group only, of which one is exchanged. -/
theorem readAlike_of_element
    {before after : List Json}
    {value other : Json}
    (exchanges : ReadAlikeAsBranch value other) :
    ReadAlike (.array (before ++ value :: after)) (.array (before ++ other :: after)) := by
  intro key criterion read
  cases found : Junction.ofKey? key with
  | none =>
      rw [ofMember_of_ofKey?_eq_none found] at read
      have isTest := ((exists_readCondition_iff key _).mp ⟨criterion, read⟩).2
      cases isTest with
      | scalar isScalar => exact isScalar.elim
  | some junction =>
      cases (Junction.ofKey?_eq_some_iff key junction).mp found
      apply ofMember_of_branches read
      intro branches isRead
      rcases Pointwise.exists_exchanged Alike.refl exchanges isRead with
        ⟨changed, changedRead, areAlike⟩
      exact ⟨changed, changedRead, .of_forall₂ areAlike⟩

theorem readAlikeAsBranch_of_members
    {members others : List (String × Json)}
    (changes :
      ∀ criteria,
        List.Forall₂ (fun entry criterion => ofMember entry.1 entry.2 = .ok criterion)
          members criteria →
        ∃ changed,
          List.Forall₂ (fun entry criterion => ofMember entry.1 entry.2 = .ok criterion)
              others changed ∧
            Alike criteria changed) :
    ReadAlikeAsBranch (.object members) (.object others) := by
  rintro criteria ⟨_, spelled, read⟩
  cases spelled
  rcases changes criteria ((ofMembers_eq_ok_iff members criteria).mp read) with
    ⟨changed, changedRead, isAlike⟩
  exact ⟨changed, ⟨others, rfl, (ofMembers_eq_ok_iff others changed).mpr changedRead⟩, isAlike⟩

theorem readAlikeAsBranch_of_member
    {before after : List (String × Json)}
    {key : String}
    {value other : Json}
    (exchanges :
      ∀ criterion, ofMember key value = .ok criterion →
        ∃ changed, ofMember key other = .ok changed ∧ criterion.Alike changed) :
    ReadAlikeAsBranch
      (.object (before ++ (key, value) :: after))
      (.object (before ++ (key, other) :: after)) := by
  apply readAlikeAsBranch_of_members
  intro criteria read
  have exchangesEntry :
      ∀ criterion, ofMember (key, value).1 (key, value).2 = .ok criterion →
        ∃ changed, ofMember (key, other).1 (key, other).2 = .ok changed ∧
          criterion.Alike changed :=
    exchanges
  rcases Pointwise.exists_exchanged Criterion.Alike.refl exchangesEntry read with
    ⟨changed, changedRead, areAlike⟩
  exact ⟨changed, changedRead, .of_forall₂ areAlike⟩

/-- In another order, a value is read as what is alike. -/
theorem readAlike_of_reorders
    {value other : Json}
    (reorders : value.Reorders other) :
    ReadAlike value other ∧ ReadAlikeAsBranch value other := by
  induction reorders with
  | same value =>
      exact
        ⟨fun _ criterion read => ⟨criterion, read, .refl criterion⟩,
          fun criteria read => ⟨criteria, read, .refl criteria⟩⟩
  | trans earlier later earlierAlike laterAlike =>
      exact ⟨earlierAlike.1.trans laterAlike.1, earlierAlike.2.trans laterAlike.2⟩
  | entries isPerm =>
      refine ⟨readAlike_of_isTest (.entries isPerm) (by simp), ?_⟩
      apply readAlikeAsBranch_of_members
      intro criteria read
      rcases Pointwise.exists_perm isPerm read with ⟨changed, changedRead, permuted⟩
      exact ⟨changed, changedRead, .of_perm permuted⟩
  | branches before after junction isPerm =>
      refine ⟨readAlike_of_isTest (.branches before after junction isPerm) (by simp), ?_⟩
      apply readAlikeAsBranch_of_member
      intro criterion read
      apply ofMember_of_branches read
      intro branches isRead
      rcases Pointwise.exists_perm isPerm isRead with ⟨changed, changedRead, permuted⟩
      exact ⟨changed, changedRead, .of_perm permuted⟩
  | member before after key inner induction =>
      refine ⟨readAlike_of_isTest (.member before after key inner) (by simp), ?_⟩
      exact readAlikeAsBranch_of_member (induction.1 key)
  | element before after inner induction =>
      refine ⟨readAlike_of_element induction.2, ?_⟩
      rintro criteria ⟨members, spelled, -⟩
      contradiction

/-- An object in another order is read as alike criteria. -/
theorem ofMembers_of_reorders
    {members others : List (String × Json)}
    (reorders : Json.Reorders (.object members) (.object others))
    {criteria : Criteria}
    (read : ofMembers members = .ok criteria) :
    ∃ changed, ofMembers others = .ok changed ∧ criteria.Alike changed := by
  rcases (readAlike_of_reorders reorders).2 criteria ⟨members, rfl, read⟩ with
    ⟨changed, ⟨_, spelled, changedRead⟩, isAlike⟩
  cases spelled
  exact ⟨changed, changedRead, isAlike⟩

/-! ## Filters put together -/

section Together

variable {first second : List (String × Json)} {firstCriteria secondCriteria : Criteria}

/-- Two objects in a group are read as the group of their criteria. -/
theorem ofFilter_combined
    (junction : Junction)
    (firstSome : first ≠ [])
    (secondSome : second ≠ [])
    (firstRead : ofMembers first = .ok firstCriteria)
    (secondRead : ofMembers second = .ok secondCriteria) :
    ofFilter (.combined junction first second) =
      .ok [.group junction [firstCriteria, secondCriteria]] := by
  have branchesRead :
      ofBranches junction [.object first, .object second] = .ok [firstCriteria, secondCriteria] :=
    (ofBranches_eq_ok_iff junction _ _).mpr
      ⟨[first, second], rfl, .cons firstRead (.cons secondRead .nil)⟩
  have nonempty : ∀ branch ∈ [firstCriteria, secondCriteria], branch ≠ [] := by
    intro branch member
    rcases List.mem_pair.mp member with rfl | rfl
    · exact mt (eq_nil_iff_of_ofMembers firstRead).mp firstSome
    · exact mt (eq_nil_iff_of_ofMembers secondRead).mp secondSome
  have groupRead :
      ofMember junction.key (.array [.object first, .object second]) =
        .ok (.group junction [firstCriteria, secondCriteria]) := by
    apply (ofMember_key_eq_ok_iff junction _ _).mpr
    refine ⟨_, [firstCriteria, secondCriteria], rfl, branchesRead, ?_⟩
    exact (validate_group_eq_ok_iff junction _ _).mpr
      ⟨List.cons_ne_nil _ _, nonempty, rfl⟩
  exact (ofMembers_eq_ok_iff _ _).mpr (.cons groupRead .nil)

theorem eval_pair
    (interpretation : Interpretation Value)
    (junction : Junction) :
    eval interpretation [.group junction [firstCriteria, secondCriteria]] =
      junction.combine [eval interpretation firstCriteria, eval interpretation secondCriteria] := by
  rw [eval, eval, Truth.and_holds, evalCriterion]
  rfl

theorem eval_append (interpretation : Interpretation Value) :
    eval interpretation (firstCriteria ++ secondCriteria) =
      (eval interpretation firstCriteria).and (eval interpretation secondCriteria) := by
  induction firstCriteria with
  | nil => exact (Truth.holds_and _).symm
  | cons criterion rest induction =>
      rw [List.cons_append, eval, eval, induction, Truth.and_assoc]

theorem fields_append :
    fields (firstCriteria ++ secondCriteria) = fields firstCriteria ++ fields secondCriteria := by
  simp only [fields_eq_flatMap, List.flatMap_append]

theorem fields_pair (junction : Junction) :
    fields [.group junction [firstCriteria, secondCriteria]] =
      fields firstCriteria ++ fields secondCriteria := by
  simp [fields, criterionFields, branchesFields]

end Together

end Criteria

/-! ## Merging -/

/-- Objects without a key in common are merged entry by entry. -/
theorem Filter.merge_eq_append
    {first second : List (String × Json)}
    (distinct : (second.map Prod.fst).Nodup)
    (apart : ∀ key ∈ first.map Prod.fst, key ∉ second.map Prod.fst) :
    merge first second = first ++ second :=
  Json.foldl_setMember_of_apart distinct apart

theorem Criteria.ofMembers_append
    {first second : List (String × Json)}
    {firstCriteria secondCriteria : Criteria}
    (firstRead : ofMembers first = .ok firstCriteria)
    (secondRead : ofMembers second = .ok secondCriteria) :
    ofMembers (first ++ second) = .ok (firstCriteria ++ secondCriteria) := by
  apply (ofMembers_eq_ok_iff _ _).mpr
  exact List.rel_append ((ofMembers_eq_ok_iff _ _).mp firstRead)
    ((ofMembers_eq_ok_iff _ _).mp secondRead)

end RecordStore
