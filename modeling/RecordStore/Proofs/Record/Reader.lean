import RecordStore.Proofs.Double.Basic
import RecordStore.Proofs.Json.Writer
import RecordStore.Proofs.Value
import RecordStore.Record.Reader

/-!
# Reading records from pieces

The text of an object is read as the record whose fields its members spell.

Whatever is read as a record, its reals are finite, and none of its fields has
the name of the identity.

Main statements: `read_objectText`, `isFinite_of_read` and
`noIdentity_of_read`.
-/

namespace RecordStore

/-- The value of a number that can be spelled is finite. -/
theorem Value.isFinite_of_ofJson?
    {json : Json}
    {value : Value}
    (isSpellable : json.IsSpellable)
    (isValue : ofJson? json = some value) :
    value.isFinite = true := by
  cases json with
  | integer number =>
      cases isValue
      rw [ofInt]
      split
      · rfl
      · exact Double.isFinite_ofDecimal_of_lt isSpellable
  | real number =>
      cases isValue
      exact isSpellable
  | array | object => contradiction
  | _ =>
      cases isValue
      rfl

namespace Record

open Json (EndsNumber AreSpaces Gathers Spells objectText)

/-- A piece is the name of a field with a text that spells its value. -/
structure SpellsField (piece : String × List Char) (entry : String × Value) : Prop where
  name_eq : piece.1 = entry.1
  noIdentity : piece.1 ≠ Field.identityName
  spells :
    ∃ json, Spells (Json.maximalDepth - 1) piece.2 json ∧ Value.ofJson? json = some entry.2

variable {pieces : List (String × List Char)} {entries : List (String × Value)}

/-- The members that spell fields are kept until they are all read. -/
theorem exists_gathers
    (spelled : List.Forall₂ SpellsField pieces entries)
    (draft : Draft) :
    ∃ members,
      Gathers readMember draft pieces { draft with members := draft.members ++ members } ∧
        scalars members = .ok entries := by
  induction spelled generalizing draft with
  | nil => exact ⟨[], by simpa using Gathers.nil draft, rfl⟩
  | @cons piece entry _ _ first _ induction =>
      rcases first.spells with ⟨json, spells, isValue⟩
      rcases induction { draft with members := draft.members ++ [(piece.1, json)] } with
        ⟨members, others, areScalars⟩
      refine ⟨(piece.1, json) :: members, .cons (fun tail ends => ?_) (by simpa using others), ?_⟩
      · rcases spells tail ends with ⟨blanks, areSpaces, isRead⟩
        refine ⟨blanks, areSpaces, ?_⟩
        rw [readMember, if_neg first.noIdentity, List.cons_append, Json.readColon_cons,
          Outcome.ok_bind, isRead]
        rfl
      · rw [scalars, Value.ofBuffered?_eq_ofJson?, isValue]
        dsimp only
        rw [areScalars, first.name_eq]
        rfl

theorem read_brace
    {text : String}
    {rest : List Char}
    (skipped : Json.skipSpace text.toList = '{' :: rest) :
    read text =
      Json.finish (do
        let (draft, rest) ← Json.readObject readMember ⟨none, []⟩ rest
        let record ← ofDraft draft
        .ok (record, rest)) := by
  rw [read]
  simp only [skipped]

theorem read_of_gathers
    {draft : Draft}
    (gathers : Gathers readMember ⟨none, []⟩ pieces draft)
    {record : Record}
    (isRecord : ofDraft draft = .ok record) :
    read (String.ofList (objectText pieces)) = .ok record := by
  have skipped :
      Json.skipSpace (String.ofList (objectText pieces)).toList =
        '{' :: (Json.separate (pieces.map Json.memberText) ++ ['}']) := by
    rw [String.toList_ofList]
    rfl
  rw [read_brace skipped, Json.readObject_pieces gathers, Outcome.ok_bind]
  dsimp only
  rw [isRecord]
  rfl

/-- A record without an identity is read from the texts of its fields. -/
theorem read_objectText (spelled : List.Forall₂ SpellsField pieces entries) :
    read (String.ofList (objectText pieces)) = .ok ⟨none, Fields.ofList entries⟩ := by
  rcases exists_gathers spelled ⟨none, []⟩ with ⟨members, gathers, areScalars⟩
  apply read_of_gathers gathers
  rw [ofDraft, List.nil_append, areScalars]
  rfl

/-! ## Reals that are read -/

/-- The values of a record are no infinities and no NaNs. -/
def IsFinite (record : Record) : Prop :=
  ∀ entry ∈ record.fields.entries, entry.2.isFinite = true

end Record

theorem Fields.mem_ofList
    {entries : List (String × Value)}
    {entry : String × Value}
    (member : entry ∈ (ofList entries).entries) :
    entry ∈ entries := by
  have onTop (rest : List (String × Value)) (known : Fields)
      (isThere :
        entry ∈ (rest.foldl (fun fields entry => fields.set entry.1 entry.2) known).entries) :
      entry ∈ known.entries ∨ entry ∈ rest := by
    induction rest generalizing known with
    | nil => exact .inl isThere
    | cons first rest induction =>
        rcases induction _ isThere with isKnown | later
        · rcases mem_setEntry isKnown with isFirst | earlier
          · exact .inr (isFirst ▸ List.mem_cons_self)
          · exact .inl earlier
        · exact .inr (List.mem_cons_of_mem first later)
  exact (onTop entries empty member).resolve_left List.not_mem_nil

namespace Record

theorem isFinite_of_scalars
    {members : List (String × Json)}
    {entries : List (String × Value)}
    (areScalars : scalars members = .ok entries)
    (areSpellable : ∀ member ∈ members, member.2.IsSpellable) :
    ∀ entry ∈ entries, entry.2.isFinite = true := by
  induction members generalizing entries with
  | nil =>
      cases areScalars
      exact fun _ member => absurd member List.not_mem_nil
  | cons first rest induction =>
      rw [scalars, Value.ofBuffered?_eq_ofJson?] at areScalars
      split at areScalars
      · contradiction
      · next value isValue =>
          rcases Outcome.bind_eq_ok_iff.mp areScalars with ⟨others, areOthers, isList⟩
          cases isList
          intro entry member
          rcases List.mem_cons.mp member with rfl | isOther
          · exact Value.isFinite_of_ofJson? (areSpellable first List.mem_cons_self) isValue
          · exact
              induction areOthers
                (fun other isMember => areSpellable other (List.mem_cons_of_mem first isMember))
                entry isOther

/-- What holds of the members of a draft holds of the next one, which has at most one more. -/
theorem forall_members_of_readMember
    {motive : String × Json → Prop}
    {draft next : Draft}
    {name : String}
    {input rest : List Char}
    (holds : ∀ member ∈ draft.members, motive member)
    (taken :
      ∀ json after,
        name ≠ Field.identityName →
          Json.readValue (Json.maximalDepth - 1) after = .ok (json, rest) → motive (name, json))
    (reads : readMember draft name input = .ok (next, rest)) :
    ∀ member ∈ next.members, motive member := by
  rw [readMember] at reads
  split at reads
  · split at reads
    · contradiction
    · rcases Outcome.bind_eq_ok_iff.mp reads with ⟨_, _, reads⟩
      rcases Outcome.bind_eq_ok_iff.mp reads with ⟨_, _, reads⟩
      cases reads
      exact holds
  · next isField =>
      rcases Outcome.bind_eq_ok_iff.mp reads with ⟨after, _, reads⟩
      rcases Outcome.bind_eq_ok_iff.mp reads with ⟨⟨json, _⟩, isRead, reads⟩
      cases reads
      intro member isMember
      rcases List.mem_append.mp isMember with isKnown | isNew
      · exact holds member isKnown
      · rw [List.mem_singleton.mp isNew]
        exact taken json after isField isRead

theorem areSpellable_readMember
    {draft next : Draft}
    {name : String}
    {input rest : List Char}
    (areSpellable : ∀ member ∈ draft.members, member.2.IsSpellable)
    (reads : readMember draft name input = .ok (next, rest)) :
    ∀ member ∈ next.members, member.2.IsSpellable :=
  forall_members_of_readMember areSpellable
    (fun _ _ _ isRead => Json.isSpellable_of_readValue isRead) reads

theorem refuse_ne_ok
    {α : Type}
    (input : List Char)
    (result : α × List Char) :
    refuse input ≠ .ok result := by
  intro accepts
  rw [refuse.eq_def] at accepts
  split at accepts
  · contradiction
  · contradiction
  · rcases Outcome.bind_eq_ok_iff.mp accepts with ⟨_, _, accepts⟩
    contradiction

/-- What is kept from one member to the next holds of the draft that a record is made of. -/
theorem exists_draft_of_read
    {motive : Draft → Prop}
    (begins : motive ⟨none, []⟩)
    (kept :
      ∀ draft name input next rest,
        motive draft → readMember draft name input = .ok (next, rest) → motive next)
    {text : String}
    {record : Record}
    (reads : read text = .ok record) :
    ∃ draft entries, motive draft ∧ scalars draft.members = .ok entries ∧
      record = ⟨draft.id.join, Fields.ofList entries⟩ := by
  rcases Outcome.bind_eq_ok_iff.mp reads with ⟨⟨found, blanks⟩, reads, isLast⟩
  have same : found = record := by
    dsimp only at isLast
    split at isLast
    · exact Except.ok.inj isLast
    · contradiction
  dsimp only at reads
  split at reads
  · rcases Outcome.bind_eq_ok_iff.mp reads with ⟨⟨draft, _⟩, gathers, reads⟩
    rcases Outcome.bind_eq_ok_iff.mp reads with ⟨_, isDraft, reads⟩
    rcases Outcome.bind_eq_ok_iff.mp isDraft with ⟨entries, areScalars, isRecord⟩
    cases reads
    cases isRecord
    exact
      ⟨draft, entries, Json.readObject_induction kept begins gathers, areScalars, same.symm⟩
  · exact absurd reads (refuse_ne_ok _ _)

/-- A record that is read from a text is finite. -/
theorem isFinite_of_read
    {text : String}
    {record : Record}
    (reads : read text = .ok record) :
    record.IsFinite := by
  rcases
      exists_draft_of_read
        (motive := fun draft => ∀ member ∈ draft.members, member.2.IsSpellable)
        (fun _ member => absurd member List.not_mem_nil)
        (fun _ _ _ _ _ areSpellable isRead => areSpellable_readMember areSpellable isRead)
        reads with
    ⟨draft, entries, areSpellable, areScalars, rfl⟩
  exact fun entry member =>
    isFinite_of_scalars areScalars areSpellable entry (Fields.mem_ofList member)

/-! ## Names that are read -/

theorem names_of_scalars
    {members : List (String × Json)}
    {entries : List (String × Value)}
    (areScalars : scalars members = .ok entries) :
    entries.map Prod.fst = members.map Prod.fst := by
  induction members generalizing entries with
  | nil =>
      cases areScalars
      rfl
  | cons first rest induction =>
      rw [scalars] at areScalars
      split at areScalars
      · contradiction
      · rcases Outcome.bind_eq_ok_iff.mp areScalars with ⟨others, areOthers, isList⟩
        cases isList
        rw [List.map_cons, List.map_cons, induction areOthers]

/-- The member that is the identity does not become a field. -/
theorem noIdentity_readMember
    {draft next : Draft}
    {name : String}
    {input rest : List Char}
    (noIdentity : ∀ member ∈ draft.members, member.1 ≠ Field.identityName)
    (reads : readMember draft name input = .ok (next, rest)) :
    ∀ member ∈ next.members, member.1 ≠ Field.identityName :=
  forall_members_of_readMember noIdentity (fun _ _ isField _ => isField) reads

/-- No field of a record that is read from a text has the name of the identity. -/
theorem noIdentity_of_read
    {text : String}
    {record : Record}
    (reads : read text = .ok record) :
    ∀ entry ∈ record.fields.entries, entry.1 ≠ Field.identityName := by
  rcases
      exists_draft_of_read
        (motive := fun draft => ∀ member ∈ draft.members, member.1 ≠ Field.identityName)
        (fun _ member => absurd member List.not_mem_nil)
        (fun _ _ _ _ _ noIdentity isRead => noIdentity_readMember noIdentity isRead) reads with
    ⟨draft, entries, noIdentity, areScalars, rfl⟩
  intro entry member
  have isName : entry.1 ∈ draft.members.map Prod.fst := by
    rw [← names_of_scalars areScalars]
    exact List.mem_map_of_mem (Fields.mem_ofList member)
  rcases List.mem_map.mp isName with ⟨known, isKnown, same⟩
  rw [← same]
  exact noIdentity known isKnown

end Record

end RecordStore
