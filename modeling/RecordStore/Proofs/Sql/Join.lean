import RecordStore.Criteria.Meaning
import RecordStore.Proofs.Sql.Legible

/-!
# Joined conditions

Conditions are joined from the left by one junction.  Joined tests are legible
at the precedence of the junction, which is why they can stand unguarded in
the text, and they mean what the junction makes of their outcomes.  Joining
does not look at the operands, and keeps them in order.
-/

namespace RecordStore.Sql.Condition

variable {α β : Type}

@[simp]
theorem joinAll?_eq_none_iff (junction : Junction) (parts : List (Condition α)) :
    joinAll? junction parts = none ↔ parts = [] := by
  cases parts <;> simp [joinAll?]

theorem exists_joinAll?
    (junction : Junction)
    {parts : List (Condition α)}
    (nonempty : parts ≠ []) :
    ∃ joined, joinAll? junction parts = some joined := by
  cases parts with
  | nil => exact absurd rfl nonempty
  | cons first rest => exact ⟨_, rfl⟩

/-- How tightly conditions bind that are joined by a junction. -/
def Precedence.ofJunction : Junction → Precedence
  | .and => .product
  | .or => .sum

/-- A factor is legible wherever a condition joined by a junction is. -/
theorem Legible.ofJunction
    {condition : Condition α}
    (legible : Legible .factor condition)
    (junction : Junction) :
    Legible (.ofJunction junction) condition := by
  cases junction with
  | and => exact .factor legible
  | or => exact .product (.factor legible)

theorem Legible.toSum
    {junction : Junction}
    {condition : Condition α}
    (legible : Legible (.ofJunction junction) condition) :
    Legible .sum condition := by
  cases junction with
  | and => exact .product legible
  | or => exact legible

theorem Legible.join
    {junction : Junction}
    {left right : Condition α}
    (leftLegible : Legible (.ofJunction junction) left)
    (rightLegible : Legible .factor right) :
    Legible (.ofJunction junction) (left.join junction right) := by
  cases junction with
  | and => exact .and leftLegible rightLegible
  | or => exact .or leftLegible (.factor rightLegible)

theorem legible_joinAll?
    {junction : Junction}
    {parts : List (Condition α)}
    (factors : ∀ part ∈ parts, Legible .factor part)
    {joined : Condition α}
    (isJoined : joinAll? junction parts = some joined) :
    Legible .sum joined := by
  cases parts with
  | nil => contradiction
  | cons first rest =>
      cases isJoined
      have further
          (left : Condition α)
          (leftLegible : Legible (.ofJunction junction) left)
          (rest : List (Condition α))
          (restFactors : ∀ part ∈ rest, Legible .factor part) :
          Legible (.ofJunction junction) (rest.foldl (join junction) left) := by
        induction rest generalizing left with
        | nil => exact leftLegible
        | cons next rest induction =>
            apply induction
            · exact leftLegible.join (restFactors next List.mem_cons_self)
            · intro part member
              exact restFactors part (List.mem_cons_of_mem next member)
      apply Legible.toSum
      apply further
      · exact (factors first List.mem_cons_self).ofJunction junction
      · intro part member
        exact factors part (List.mem_cons_of_mem first member)

/-- Joined conditions mean what the junction makes of their outcomes. -/
theorem eval_joinAll?
    {junction : Junction}
    {parts : List (Condition α)}
    {joined : Condition α}
    (isJoined : joinAll? junction parts = some joined)
    (interpretation : Interpretation α) :
    joined.eval interpretation =
      junction.combine (parts.map (eval interpretation)) := by
  cases parts with
  | nil => contradiction
  | cons first rest =>
      cases isJoined
      induction rest generalizing first with
      | nil => cases junction <;> simp [Junction.combine, Truth.all, Truth.any]
      | cons second rest induction =>
          rw [List.foldl_cons, induction (join junction first second)]
          cases junction with
          | and =>
              simp [join, eval, Junction.combine, Truth.all, Truth.and_assoc]
          | or =>
              simp [join, eval, Junction.combine, Truth.any, Truth.or_assoc]

/-- Replacing operands and joining can be done in either order. -/
theorem joinAll?_map
    (junction : Junction)
    (parts : List (Condition α))
    (f : α → β) :
    joinAll? junction (parts.map (map f)) = (joinAll? junction parts).map (map f) := by
  have join_map (left right : Condition α) :
      join junction (left.map f) (right.map f) = (join junction left right).map f := by
    cases junction <;> rfl
  cases parts with
  | nil => rfl
  | cons first rest =>
      simp only [joinAll?, List.map_cons, Option.map_some, Option.some.injEq]
      induction rest generalizing first with
      | nil => rfl
      | cons second rest induction =>
          rw [List.map_cons, List.foldl_cons, List.foldl_cons, join_map, induction]

/-- What a junction puts together, joined conditions put together. -/
theorem flatMap_joinAll?
    {list : Condition α → List β}
    {junction : Junction}
    (list_join : ∀ left right, list (join junction left right) = list left ++ list right)
    {parts : List (Condition α)}
    {joined : Condition α}
    (isJoined : joinAll? junction parts = some joined) :
    list joined = parts.flatMap list := by
  cases parts with
  | nil => contradiction
  | cons first rest =>
      cases isJoined
      induction rest generalizing first with
      | nil => simp
      | cons second rest induction =>
          rw [List.foldl_cons, induction (join junction first second)]
          simp [list_join]

theorem operands_joinAll?
    {junction : Junction}
    {parts : List (Condition α)}
    {joined : Condition α}
    (isJoined : joinAll? junction parts = some joined) :
    joined.operands = parts.flatMap operands := by
  apply flatMap_joinAll? ?_ isJoined
  intro left right
  cases junction <;> rfl

end RecordStore.Sql.Condition
