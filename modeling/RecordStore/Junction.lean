/-!
# Junctions

The branches of a group combine by one of the two junctions.
-/

namespace RecordStore

/-- How the branches of a group combine. -/
inductive Junction where
  | and
  | or
  deriving DecidableEq, Repr

namespace Junction

/-- The key that introduces a group in a filter. -/
def key : Junction → String
  | and => "$and"
  | or => "$or"

/-- The keyword between the branches in SQL text. -/
def keyword : Junction → String
  | and => "AND"
  | or => "OR"

/-- The junction with a key. -/
def ofKey? (key : String) : Option Junction :=
  if key = and.key then some and
  else if key = or.key then some or
  else none

@[simp]
theorem ofKey?_key (junction : Junction) : ofKey? junction.key = some junction := by
  cases junction <;> decide

end Junction

end RecordStore
