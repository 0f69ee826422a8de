import Mathlib.Data.List.Forall2
import RecordStore.Proofs.Json.Number
import RecordStore.Proofs.Operator
import RecordStore.Proofs.Record.Reader

/-!
# Reading records that were written

The text of a record is read as that record again: its identity comes first,
its fields ascend as they were written, and every scalar is spelled by its
text.  Only a real that is not finite and a field with the name of the
identity do not come back: no text at all is read as a record with one.

Main statements: `Record.read_toText` and `Record.comes_back_iff_isWritable`.
-/

namespace RecordStore

/-! ## Scalars -/

namespace Json

theorem startsNumber_of_readNumber
    {c : Char}
    {input rest : List Char}
    {json : Json}
    (reads : readNumber (c :: input) = .ok (json, rest)) :
    c = '-' ∨ c.isDigit = true := by
  by_contra other
  rw [not_or] at other
  have noSign : ((c :: input).head? == some '-') = false := by simp [other.1]
  rw [readNumber] at reads
  simp only [noSign, Bool.false_eq_true, if_false] at reads
  rcases Outcome.bind_eq_ok_iff.mp reads with ⟨_, isWhole, _⟩
  have notZero : c ≠ '0' := by
    rintro rfl
    exact other.2 rfl
  rw [readWhole] at isWhole
  · rw [readDigits, if_neg other.2] at isWhole
    contradiction
  · rintro _ same
    exact notZero (List.cons.inj same).1

/-- What is read as a number to its end spells it. -/
theorem Spells.of_readNumber
    {input : List Char}
    {json : Json}
    (reads : readNumber input = .ok (json, []))
    (isScalar : json.IsScalar)
    (depth : Nat) :
    Spells depth input json := by
  cases input with
  | nil => contradiction
  | cons c rest =>
      have startsNumber := startsNumber_of_readNumber reads
      have skipped : skipSpace (c :: rest) = c :: rest := by
        have noSpace : isSpace c = false := by
          rw [isSpace]
          simp only [Bool.or_eq_false_iff, beq_eq_false_iff_ne]
          refine ⟨⟨⟨?_, ?_⟩, ?_⟩, ?_⟩ <;>
            · rintro rfl
              revert startsNumber
              decide
        exact List.dropWhile_cons_of_neg (by rw [noSpace]; decide)
      have isRead : readValue 0 (c :: rest) = .ok (json, []) :=
        (readValue_number startsNumber skipped).trans reads
      exact of_readValue isRead isScalar depth

end Json

/-- A finite value is spelled by its text. -/
theorem Value.spells_toJson
    {value : Value}
    (isFinite : value.isFinite = true)
    (depth : Nat) :
    Json.Spells depth value.toJson.write value.toJson := by
  have ofRead {json : Json} (isScalar : json.IsScalar)
      (isRead : Json.readValue 0 json.write = .ok (json, [])) :
      Json.Spells depth json.write json :=
    .of_readValue isRead isScalar depth
  cases value with
  | null => exact ofRead trivial rfl
  | boolean flag => cases flag <;> exact ofRead trivial rfl
  | integer number =>
      have large := number.le_toInt
      have small := number.toInt_lt
      exact .of_readNumber (Json.readNumber_writeInteger large (by omega)) trivial depth
  | real number =>
      have isReal : number.isFinite = true := isFinite
      rw [toJson, if_pos isReal]
      exact .of_readNumber (Json.readNumber_writeReal isReal) trivial depth
  | text content =>
      refine ofRead trivial ?_
      have isRead := Json.readText_escape content []
      have isText :
          (Json.text content).write = '"' :: (content.toList.flatMap Json.escape ++ ['"']) := by
        simp [Json.write, Json.writeText]
      rw [toJson, isText, Json.readValue_text rfl, isRead]
      rfl

/-! ## Fields -/

namespace Fields

/-- Setting a value under a name after all others puts it at the end. -/
theorem setEntry_of_lt
    {name : String}
    {value : Value}
    {entries : List (String × Value)}
    (isLast : ∀ entry ∈ entries, entry.1 < name) :
    setEntry name value entries = entries ++ [(name, value)] := by
  induction entries with
  | nil => rfl
  | cons entry rest induction =>
      have isBefore := isLast entry List.mem_cons_self
      rw [setEntry, if_neg (String.ne_of_lt isBefore).symm, if_neg (String.lt_asymm isBefore),
        induction fun other member => isLast other (List.mem_cons_of_mem entry member)]
      rfl

/-- Fields that are set in the order of their names stay in that order. -/
theorem ofList_entries (fields : Fields) : ofList fields.entries = fields := by
  have onTop (rest : List (String × Value)) (known : Fields)
      (ascending :
        (known.entries ++ rest).Pairwise fun earlier later => earlier.1 < later.1) :
      (rest.foldl (fun fields entry => fields.set entry.1 entry.2) known).entries =
        known.entries ++ rest := by
    induction rest generalizing known with
    | nil => rw [List.foldl_nil, List.append_nil]
    | cons entry rest induction =>
        have isLast : ∀ other ∈ known.entries, other.1 < entry.1 := fun other member =>
          (List.pairwise_append.mp ascending).2.2 other member entry List.mem_cons_self
        have isNext : (known.set entry.1 entry.2).entries = known.entries ++ [entry] :=
          setEntry_of_lt isLast
        rw [List.foldl_cons, induction, isNext, List.append_assoc, List.singleton_append]
        rwa [isNext, List.append_assoc, List.singleton_append]
  rcases fields with ⟨entries, ascending⟩
  rw [Fields.mk.injEq]
  exact onTop entries empty ascending

end Fields

/-! ## Records -/

namespace Record

open Json (Gathers objectText)

variable {record : Record}

/-- A record whose text can be read back: its reals are finite, and no field is an identity. -/
structure IsWritable (record : Record) : Prop where
  finite : ∀ entry ∈ record.fields.entries, entry.2.isFinite = true
  noIdentity : ∀ entry ∈ record.fields.entries, entry.1 ≠ Field.identityName

/-- The texts of the fields of a record. -/
def pieces (record : Record) : List (String × List Char) :=
  record.fields.entries.map fun entry => (entry.1, entry.2.toJson.write)

theorem spellsField_pieces (isWritable : record.IsWritable) :
    List.Forall₂ SpellsField record.pieces record.fields.entries := by
  rw [pieces, List.forall₂_map_left_iff, List.forall₂_same]
  intro entry member
  have isFinite := isWritable.finite entry member
  exact
    { name_eq := rfl
      noIdentity := isWritable.noIdentity entry member
      spells := ⟨_, Value.spells_toJson isFinite _, Value.ofJson?_toJson isFinite⟩ }

theorem toText_eq (record : Record) :
    record.toText =
      String.ofList
        (objectText
          ((record.id.map fun id => (Field.identityName, (Json.integer id.toInt).write)).toList ++
            record.pieces)) := by
  have sameFields :
      (record.fields.entries.map fun entry => (entry.1, entry.2.toJson)).map
          (fun member => (member.1, member.2.write)) =
        record.pieces := by
    rw [List.map_map]
    rfl
  rw [toText, Json.toText, toJson]
  cases record.id with
  | none =>
      dsimp only
      rw [Json.write_object, sameFields]
      rfl
  | some id =>
      dsimp only
      rw [Json.write_object, List.map_cons, sameFields]
      rfl

theorem readIdentity_of_readValue
    {id : Int64}
    {input rest : List Char}
    (isRead : Json.readValue 0 input = .ok (.integer id.toInt, rest)) :
    readIdentity input = .ok (some id, rest) := by
  rw [← Json.readValue_skipSpace] at isRead
  rw [readIdentity]
  dsimp only
  split
  · next isFirst =>
      rw [isFirst, Json.readValue.eq_def] at isRead
      contradiction
  · next isFirst =>
      rw [isFirst, Json.readValue.eq_def] at isRead
      contradiction
  · rw [isRead, Outcome.ok_bind]
    dsimp only
    rw [if_pos (Value.fitsWord_toInt id), Int64.ofInt_toInt]

/-- An identity is read first, and nothing is known before. -/
theorem gathers_identity (id : Int64) :
    Gathers readMember ⟨none, []⟩
      [(Field.identityName, (Json.integer id.toInt).write)]
      ⟨some (some id), []⟩ := by
  refine .cons (fun tail ends => ?_) (.nil _)
  have spells : Json.Spells 0 (Json.integer id.toInt).write (.integer id.toInt) :=
    Value.spells_toJson (show (Value.integer id).isFinite = true from rfl) 0
  rcases spells tail ends with ⟨blanks, areSpaces, isRead⟩
  refine ⟨blanks, areSpaces, ?_⟩
  rw [readMember, if_pos rfl, if_neg (by decide), List.cons_append, Json.readColon_cons,
    Outcome.ok_bind, readIdentity_of_readValue isRead]
  rfl

/-- A record is read as it was written. -/
theorem read_toText (isWritable : record.IsWritable) : read record.toText = .ok record := by
  have ofEntries (id : Option (Option Int64)) (isId : id.join = record.id)
      (members : List (String × Json)) (areScalars : scalars members = .ok record.fields.entries) :
      ofDraft ⟨id, members⟩ = .ok record := by
    rw [ofDraft, areScalars, Outcome.ok_bind, Fields.ofList_entries, isId]
  have spelled := spellsField_pieces isWritable
  rw [toText_eq]
  cases isId : record.id with
  | none =>
      rcases exists_gathers spelled ⟨none, []⟩ with ⟨members, gathers, areScalars⟩
      exact read_of_gathers gathers (ofEntries none isId.symm members areScalars)
  | some id =>
      rcases exists_gathers spelled ⟨some (some id), []⟩ with ⟨members, gathers, areScalars⟩
      rcases gathers_identity id with _ | ⟨reads, last⟩
      cases last
      exact
        read_of_gathers (.cons reads gathers)
          (ofEntries (some (some id)) isId.symm members areScalars)

/-- What is read as a record can be written. -/
theorem isWritable_of_read
    {text : String}
    (reads : read text = .ok record) :
    record.IsWritable :=
  ⟨isFinite_of_read reads, noIdentity_of_read reads⟩

/--
A record comes back from its own text exactly when its reals are finite and
no field has the name of the identity.

It comes back as it was: with its identity or without one, with the same
names, whatever characters they have, and with values of the same kind.
-/
theorem comes_back_iff_isWritable (record : Record) :
    read record.toText = .ok record ↔
      (∀ entry ∈ record.fields.entries, entry.2.isFinite = true) ∧
        ∀ entry ∈ record.fields.entries, entry.1 ≠ Field.identityName := by
  constructor
  · intro comesBack
    have isWritable := isWritable_of_read comesBack
    exact ⟨isWritable.finite, isWritable.noIdentity⟩
  · rintro ⟨finite, noIdentity⟩
    exact read_toText ⟨finite, noIdentity⟩

end Record

end RecordStore
