import RecordStore.Sql.Condition

/-!
# Terms of conditions

A condition is a conjunction of terms, and a term may be a disjunction of
branches.  Parentheses do not matter for that: what stands between them is
taken apart like everything else.
-/

namespace RecordStore.Sql.Condition

variable {α : Type}

/-- The conditions all of which have to hold, from left to right. -/
def conjuncts : Condition α → List (Condition α)
  | and left right => left.conjuncts ++ right.conjuncts
  | paren inner => inner.conjuncts
  | other => [other]

/-- The conditions of which one has to hold, from left to right. -/
def disjuncts : Condition α → List (Condition α)
  | or left right => left.disjuncts ++ right.disjuncts
  | paren inner => inner.disjuncts
  | other => [other]

/-- The number of nodes. -/
def size : Condition α → Nat
  | compare _ _ _ => 1
  | member _ _ _ => 1
  | isNull _ _ => 1
  | and left right => left.size + right.size + 1
  | or left right => left.size + right.size + 1
  | paren inner => inner.size + 1

/-- Somewhere in the condition one of several branches is to hold. -/
def hasChoice : Condition α → Bool
  | and left right => left.hasChoice || right.hasChoice
  | or _ _ => true
  | paren inner => inner.hasChoice
  | _ => false

/-- The terms of a condition without a choice have none. -/
theorem hasChoice_of_mem_conjuncts
    {condition term : Condition α}
    (noChoice : condition.hasChoice = false)
    (member : term ∈ condition.conjuncts) :
    term.hasChoice = false := by
  induction condition with
  | compare | member | isNull | or =>
      cases List.mem_singleton.mp member
      exact noChoice
  | and left right leftNone rightNone =>
      rcases Bool.or_eq_false_iff.mp noChoice with ⟨noLeft, noRight⟩
      rcases List.mem_append.mp member with isLeft | isRight
      · exact leftNone noLeft isLeft
      · exact rightNone noRight isRight
  | paren inner none => exact none noChoice member

/-- A condition means the conjunction of its terms. -/
theorem all_conjuncts (interpretation : Interpretation α) (condition : Condition α) :
    Truth.all (condition.conjuncts.map (eval interpretation)) = condition.eval interpretation := by
  have append (left right : List Truth) :
      Truth.all (left ++ right) = (Truth.all left).and (Truth.all right) := by
    induction left with
    | nil => simp [Truth.all]
    | cons first rest same =>
        simp only [Truth.all, List.cons_append, List.foldr_cons] at same ⊢
        rw [same, Truth.and_assoc]
  induction condition with
  | compare | member | isNull => simp [conjuncts, Truth.all]
  | and left right leftSame rightSame =>
      simp [conjuncts, append, leftSame, rightSame, eval]
  | or => simp [conjuncts, Truth.all]
  | paren inner same => simpa [conjuncts, eval] using same

/-- A condition means the disjunction of its branches. -/
theorem any_disjuncts (interpretation : Interpretation α) (condition : Condition α) :
    Truth.any (condition.disjuncts.map (eval interpretation)) = condition.eval interpretation := by
  have append (left right : List Truth) :
      Truth.any (left ++ right) = (Truth.any left).or (Truth.any right) := by
    induction left with
    | nil => simp [Truth.any]
    | cons first rest same =>
        simp only [Truth.any, List.cons_append, List.foldr_cons] at same ⊢
        rw [same, Truth.or_assoc]
  induction condition with
  | compare | member | isNull => simp [disjuncts, Truth.any]
  | or left right leftSame rightSame =>
      simp [disjuncts, append, leftSame, rightSame, eval]
  | and => simp [disjuncts, Truth.any]
  | paren inner same => simpa [disjuncts, eval] using same

end RecordStore.Sql.Condition
