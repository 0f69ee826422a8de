import RecordStore.Value

/-!
# Named values in order

The fields of a record are values under distinct names, in ascending order
of the names.  Names are compared character by character, which orders them
as their UTF-8 bytes do.  The order is part of the type, so that two records
with the same values under the same names are equal.
-/

namespace RecordStore

/-- Values under distinct names, in ascending order of the names. -/
structure Fields where
  entries : List (String × Value)
  ascending : entries.Pairwise fun earlier later => earlier.1 < later.1
  deriving DecidableEq

namespace Fields

/-- No names at all. -/
def empty : Fields :=
  ⟨[], .nil⟩

/-- Sets a value in an ascending list, in the place of its name. -/
def setEntry (name : String) (value : Value) :
    List (String × Value) → List (String × Value)
  | [] => [(name, value)]
  | (known, old) :: rest =>
      if name = known then
        (name, value) :: rest
      else if name < known then
        (name, value) :: (known, old) :: rest
      else
        (known, old) :: setEntry name value rest

/-- Setting a value brings in no other entry. -/
theorem mem_setEntry
    {name : String}
    {value : Value}
    {entries : List (String × Value)}
    {entry : String × Value}
    (member : entry ∈ setEntry name value entries) :
    entry = (name, value) ∨ entry ∈ entries := by
  induction entries with
  | nil => simpa [setEntry] using member
  | cons first rest inductive_step =>
      obtain ⟨known, old⟩ := first
      rw [setEntry] at member
      split at member
      · rcases List.mem_cons.1 member with same | other
        · exact .inl same
        · exact .inr (List.mem_cons_of_mem _ other)
      · split at member
        · rcases List.mem_cons.1 member with same | other
          · exact .inl same
          · exact .inr other
        · rcases List.mem_cons.1 member with same | other
          · exact .inr (same ▸ List.mem_cons_self)
          · rcases inductive_step other with new | kept
            · exact .inl new
            · exact .inr (List.mem_cons_of_mem _ kept)

/-- Setting a value keeps the names ascending. -/
theorem setEntry_ascending
    {name : String}
    {value : Value}
    {entries : List (String × Value)}
    (ascending : entries.Pairwise fun earlier later => earlier.1 < later.1) :
    (setEntry name value entries).Pairwise
      fun earlier later => earlier.1 < later.1 := by
  induction entries with
  | nil => simp [setEntry]
  | cons first rest inductive_step =>
      obtain ⟨known, old⟩ := first
      obtain ⟨before, rest_ascending⟩ := List.pairwise_cons.1 ascending
      rw [setEntry]
      split
      case isTrue same =>
        subst same
        exact List.pairwise_cons.2 ⟨before, rest_ascending⟩
      case isFalse different =>
        split
        case isTrue less =>
          refine List.pairwise_cons.2 ⟨?_, ascending⟩
          intro later member
          rcases List.mem_cons.1 member with same | other
          · simpa [same] using less
          · exact String.lt_trans less (before later other)
        case isFalse notLess =>
          refine List.pairwise_cons.2 ⟨?_, inductive_step rest_ascending⟩
          intro later member
          rcases mem_setEntry member with new | kept
          · simpa [new] using
              Std.lt_of_le_of_ne (String.not_lt.1 notLess) (Ne.symm different)
          · exact before later kept

/-- The value under a name. -/
def get? (fields : Fields) (name : String) : Option Value :=
  Json.member? name fields.entries

/-- Sets the value under a name. -/
def set (fields : Fields) (name : String) (value : Value) : Fields :=
  ⟨setEntry name value fields.entries, setEntry_ascending fields.ascending⟩

/-- Removes the value under a name. -/
def erase (fields : Fields) (name : String) : Fields :=
  ⟨fields.entries.filter fun entry => entry.1 ≠ name,
    fields.ascending.filter _⟩

/-- Fields set one after the other. -/
def ofList (entries : List (String × Value)) : Fields :=
  entries.foldl (fun fields entry => fields.set entry.1 entry.2) empty

/-- The names in ascending order. -/
def names (fields : Fields) : List String :=
  fields.entries.map Prod.fst

end Fields

end RecordStore
