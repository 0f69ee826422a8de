import RecordStore.Proofs.Database.Rows
import RecordStore.Proofs.Database.Search

/-!
# Rows in the order of their ids

A disjunction may be searched branch after branch, and then its rows come in the
order of the branches.  Where a condition leaves no such choice, the table is gone
through once, and the rows come in the order of their ids.

Main statement: `Table.matching_sublist`.
-/

namespace RecordStore

open Sql (Condition)

variable {table : Table}

/-- A term without a choice offers no branches. -/
theorem Offer.ofTerm_ne_either
    {term : Condition Value}
    (noChoice : term.hasChoice = false)
    (branches : List (Condition Value)) :
    ofTerm table term ≠ .either branches := by
  cases term with
  | compare column comparison operand =>
      rw [ofTerm]
      split
      · cases comparison <;> simp [ofComparison]
      · split <;> simp
      · simp
  | member column negated operands =>
      rw [ofTerm]
      split
      · cases negated with
        | true => simp
        | false =>
            simp only [Bool.false_eq_true, if_false]
            rw [ofMembers.eq_def]
            split <;> simp
      · split <;> simp
      · simp
  | isNull column negated =>
      rw [ofTerm]
      split
      · split <;> simp
      · simp
  | or left right => contradiction
  | and | paren => simp [ofTerm]

namespace Plan

/-- A search that starts from a handle goes through the table once. -/
theorem approach_ne_branches_of_mem_candidatesOf
    {handles : List Handle}
    {handle : Handle}
    {candidate : Candidate}
    (member : candidate ∈ candidatesOf handles handle)
    (index : Nat)
    (branches : List (Condition Value)) :
    candidate.approach ≠ .branches index branches := by
  rcases handle with ⟨offer, term⟩
  cases offer with
  | equal | oneOf | upper =>
      cases List.mem_singleton.mp member
      nofun
  | lower =>
      rcases List.mem_cons.mp member with rfl | isBoth
      · nofun
      · rcases Option.map_eq_some_iff.mp (Option.mem_toList.mp isBoth) with ⟨_, _, rfl⟩
        nofun
  | plain | present | either | test | constant => contradiction

/-- Where no branches are offered, none are chosen. -/
theorem choose_ne_branches
    {offers : List Offer}
    (noBranches : ∀ offer ∈ offers, ∀ branches, offer ≠ .either branches)
    (depth index : Nat)
    (branches : List (Condition Value)) :
    (choose table depth offers).approach ≠ .branches index branches := by
  rw [choose]
  rcases List.mem_cons.mp (best_mem _ _) with isScan | isOther
  · rw [isScan]
    simp [adjust]
  · rcases List.mem_append.mp isOther with isSimple | isBranched
    · rcases List.mem_map.mp isSimple with ⟨candidate, isCandidate, adjusted⟩
      rcases List.mem_flatMap.mp isCandidate with ⟨handle, _, isCandidate⟩
      -- Adjusting changes the estimate alone.
      rw [← adjusted]
      exact approach_ne_branches_of_mem_candidatesOf isCandidate index branches
    · rcases List.mem_filterMap.mp isBranched with ⟨⟨offer, place⟩, isIndexed, isFound⟩
      dsimp only at isFound
      split at isFound
      · exact absurd rfl (noBranches _ (List.fst_mem_of_mem_zipIdx isIndexed) _)
      · contradiction

/-- Terms without a choice are met in the order of the rows. -/
theorem visit_ofTerms_sublist
    {terms : List (Condition Value)}
    (noChoice : ∀ term ∈ terms, term.hasChoice = false)
    (isStatement : Bool)
    (depth : Nat)
    (rows : List Row) :
    ((ofTerms table isStatement depth terms).visit table rows).Sublist rows := by
  cases depth with
  | zero => exact List.Sublist.refl rows
  | succ depth =>
      have noBranches (offer : Offer) (isOffer : offer ∈ terms.map (Offer.ofTerm table)) :
          ∀ branches, offer ≠ .either branches := by
        rcases List.mem_map.mp isOffer with ⟨term, isTerm, rfl⟩
        exact Offer.ofTerm_ne_either (noChoice term isTerm)
      rw [ofTerms]
      dsimp only
      split
      · exact List.filter_sublist
      · split
        · exact List.Sublist.refl rows
        · exact List.filter_sublist
        · next approach => exact absurd approach (choose_ne_branches noBranches depth _ _)

end Plan

/-- A condition without a choice finds its rows in the order in which they are stored. -/
theorem Table.matching_sublist
    {condition : Option (Condition Value)}
    (noChoice : condition.any Condition.hasChoice = false) :
    (table.matching condition).Sublist table.rows := by
  have visited :
      (table.matching condition).Sublist (table.rows.filter (table.selects condition)) := by
    cases condition with
    | none => exact List.Sublist.refl _
    | some condition =>
        exact
          Plan.visit_ofTerms_sublist
            (fun _ member => Condition.hasChoice_of_mem_conjuncts noChoice member) true _ _
  exact visited.trans List.filter_sublist

/-- Conditions without a choice that find the same rows find them in the same order. -/
theorem Table.matching_eq_of_perm
    (ascending : Ascending table.rows)
    {condition other : Option (Condition Value)}
    (same : (table.matching other).Perm (table.matching condition))
    (noChoice : condition.any Condition.hasChoice = false)
    (noOther : other.any Condition.hasChoice = false) :
    table.matching other = table.matching condition := by
  have first := ascending.sublist (matching_sublist noChoice)
  have second := ascending.sublist (matching_sublist noOther)
  exact same.eq_of_pairwise (fun _ _ _ _ less more => absurd more (Int64.lt_asymm less)) second first

end RecordStore
