import RecordStore.Restriction
import RecordStore.Database.Fault
import RecordStore.Database.Basic
import RecordStore.Sql.Condition.Terms

/-!
# Filters put together and put in another order

Two objects can be put together as the branches of a group, or merged into
one object.  An object keeps the order of its entries and an array that of
its elements; values that differ in the order of entries, or in that of the
branches of groups, differ in their order alone.
-/

namespace RecordStore

namespace Json

/-- The values differ in the order of entries and of branches alone, at any depth. -/
inductive Reorders : Json → Json → Prop where
  | same (value : Json) : Reorders value value
  | trans
      {first second third : Json}
      (earlier : Reorders first second)
      (later : Reorders second third) :
      Reorders first third
  | entries
      {members others : List (String × Json)}
      (isPerm : members.Perm others) :
      Reorders (.object members) (.object others)
  | branches
      (before after : List (String × Json))
      (junction : Junction)
      {items others : List Json}
      (isPerm : items.Perm others) :
      Reorders
        (.object (before ++ (junction.key, .array items) :: after))
        (.object (before ++ (junction.key, .array others) :: after))
  | member
      (before after : List (String × Json))
      (key : String)
      {value other : Json}
      (inner : Reorders value other) :
      Reorders
        (.object (before ++ (key, value) :: after))
        (.object (before ++ (key, other) :: after))
  | element
      (before after : List Json)
      {value other : Json}
      (inner : Reorders value other) :
      Reorders (.array (before ++ value :: after)) (.array (before ++ other :: after))

end Json

namespace Filter

/-- The filter with two objects as the branches of a group. -/
def combined (junction : Junction) (first second : List (String × Json)) : Filter :=
  .object [(junction.key, .array [.object first, .object second])]

/-- The object with the entries of two; of those under one key, the second one's counts. -/
def merge (first second : List (String × Json)) : List (String × Json) :=
  second.foldl (fun members entry => Json.setMember entry.1 entry.2 members) first

/-- Statements with the condition of the filter are within the limits of the database. -/
def IsSmall (filter : Filter) : Prop :=
  ∀ restriction, filter.restriction = .ok restriction →
    (∀ condition ∈ restriction.condition, condition.height ≤ DatabaseFault.maximalDepth) ∧
      restriction.placeholderCount ≤ Database.maximalParameters

/-- The condition of the filter leaves a choice between branches somewhere. -/
def hasChoice (filter : Filter) : Bool :=
  filter.restriction.toOption.any fun restriction =>
    restriction.condition.any Sql.Condition.hasChoice

instance (filter : Filter) : Decidable filter.IsSmall :=
  match restricts : filter.restriction with
  | .error _ => isTrue fun _ restrictsToo => nomatch restricts.symm.trans restrictsToo
  | .ok restriction =>
      decidable_of_iff
        ((∀ condition ∈ restriction.condition, condition.height ≤ DatabaseFault.maximalDepth) ∧
          restriction.placeholderCount ≤ Database.maximalParameters)
        ⟨fun limits _ restrictsToo => Except.ok.inj (restricts.symm.trans restrictsToo) ▸ limits,
          fun small => small restriction restricts⟩

end Filter

end RecordStore
