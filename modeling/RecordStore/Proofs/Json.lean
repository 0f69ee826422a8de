import RecordStore.Json.Basic

/-!
# JSON values and the members of objects

A JSON value holds others in its elements and in the values of its members.
The induction principles here hand every statement about them to the proof
about the container, and say nothing of how lists of them are built.  An
object that gets entries under names that it does not have yet keeps what it
has and has the entries behind it, in their order.

Main statements: `containerInduction`, `branchInduction` and
`foldl_setMember_of_apart`.
-/

namespace RecordStore.Json

/-- What holds of scalars, and of a container whenever it holds of what is in it, holds always. -/
@[elab_as_elim]
theorem containerInduction
    {motive : Json → Prop}
    (null : motive .null)
    (boolean : ∀ flag, motive (.boolean flag))
    (integer : ∀ number, motive (.integer number))
    (real : ∀ number, motive (.real number))
    (text : ∀ content, motive (.text content))
    (array : ∀ elements, (∀ element ∈ elements, motive element) → motive (.array elements))
    (object : ∀ members, (∀ member ∈ members, motive member.2) → motive (.object members))
    (json : Json) :
    motive json := by
  refine
    @Json.rec
      motive
      (fun elements => ∀ element ∈ elements, motive element)
      (fun members => ∀ member ∈ members, motive member.2)
      (fun member => motive member.2)
      null boolean integer real text array object ?_ ?_ ?_ ?_ ?_ json
  · intro element member
    contradiction
  · intro first rest firstHolds restHold element member
    rcases List.mem_cons.mp member with rfl | inRest
    · exact firstHolds
    · exact restHold element inRest
  · intro entry member
    contradiction
  · intro first rest firstHolds restHold entry member
    rcases List.mem_cons.mp member with rfl | inRest
    · exact firstHolds
    · exact restHold entry inRest
  · intro name value holds
    exact holds

/--
What holds of a value whenever it holds of the entries of the objects that
the value has as its elements, holds of all values.
-/
theorem branchInduction
    {motive : Json → Prop}
    (step :
      ∀ value,
        (∀ elements, value = .array elements →
          ∀ members, .object members ∈ elements →
            ∀ entry ∈ members, motive entry.2) →
        motive value)
    (json : Json) :
    motive json := by
  -- The entries lie two levels down, so the invariant speaks of the members as well.
  have both :
      motive json ∧
        ∀ members, json = .object members → ∀ entry ∈ members, motive entry.2 := by
    induction json using containerInduction with
    | array elements induction =>
        refine ⟨step _ ?_, by simp⟩
        intro items equal members isElement
        rcases array.inj equal with rfl
        exact (induction (.object members) isElement).2 members rfl
    | object members induction =>
        refine ⟨step _ (by simp), ?_⟩
        intro others equal entry member
        rcases object.inj equal with rfl
        exact (induction entry member).1
    | _ => exact ⟨step _ (by simp), by simp⟩
  exact both.1

/-! ## Members under new names -/

section Members

variable {α : Type}

theorem setMember_of_new
    {name : String}
    {members : List (String × α)}
    (isNew : name ∉ members.map Prod.fst)
    (value : α) :
    setMember name value members = members ++ [(name, value)] := by
  induction members with
  | nil => rfl
  | cons first rest induction =>
      rw [List.map_cons, List.mem_cons, not_or] at isNew
      rw [setMember, if_neg (Ne.symm isNew.1), induction isNew.2, List.cons_append]

theorem foldl_setMember_of_apart
    {known entries : List (String × α)}
    (distinct : (entries.map Prod.fst).Nodup)
    (apart : ∀ name ∈ known.map Prod.fst, name ∉ entries.map Prod.fst) :
    entries.foldl (fun members entry => setMember entry.1 entry.2 members) known =
      known ++ entries := by
  induction entries generalizing known with
  | nil => exact (List.append_nil known).symm
  | cons entry rest induction =>
      rw [List.map_cons, List.nodup_cons] at distinct
      have isNew : entry.1 ∉ known.map Prod.fst := fun isKnown =>
        apart entry.1 isKnown List.mem_cons_self
      -- The first entry is among the known ones from here on, and the rest do not repeat it.
      have stillApart :
          ∀ name ∈ (known ++ [entry]).map Prod.fst, name ∉ rest.map Prod.fst := by
        intro name member
        rw [List.map_append, List.mem_append] at member
        rcases member with isKnown | isEntry
        · exact fun isRest => apart name isKnown (List.mem_cons_of_mem _ isRest)
        · cases List.mem_singleton.mp isEntry
          exact distinct.1
      rw [List.foldl_cons, setMember_of_new isNew, induction distinct.2 stillApart,
        List.append_assoc, List.singleton_append]

/-- Entries under distinct names are the members of their object, in their order. -/
theorem setMembers_of_nodup
    {entries : List (String × α)}
    (distinct : (entries.map Prod.fst).Nodup) :
    setMembers entries = entries :=
  foldl_setMember_of_apart distinct (by simp)

end Members

end RecordStore.Json
