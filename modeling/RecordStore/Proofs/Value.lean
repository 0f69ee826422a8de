import RecordStore.Proofs.Json.Whole
import RecordStore.Proofs.Operator

/-!
# The two ways to a value

The operand of a filter is taken apart by what it is, and the field of a
record is tried as each kind of value in turn.  Both come to the same value,
because no two kinds take the same JSON but integers and reals, and integers
are tried first.

So a text has one value, whichever way it is read.  It is an integer exactly
when it writes a whole number that fits a signed word, and a real when it is
any other number.

Main statement: `readers_agree`.
-/

namespace RecordStore.Value

theorem ofBuffered?_eq_ofJson? (json : Json) : ofBuffered? json = ofJson? json := by
  cases json with
  | integer number =>
      rw [ofJson?, ofInt]
      by_cases fits : fitsWord number = true
      · simp [ofBuffered?, kinds, List.findSome?, asNull?, asBoolean?, asInteger?, fits]
      · simp [ofBuffered?, kinds, List.findSome?, asNull?, asBoolean?, asInteger?, asReal?, fits]
  | _ => rfl

theorem read_eq_ok_iff
    {text : String}
    {value : Value} :
    read text = .ok value ↔ ∃ json, Json.read text = .ok json ∧ ofJson? json = some value := by
  constructor
  · intro isRead
    rcases Outcome.bind_eq_ok_iff.mp isRead with ⟨⟨found, rest⟩, isFound, isLast⟩
    rcases Outcome.bind_eq_ok_iff.mp isFound with ⟨⟨json, after⟩, isJson, isFound⟩
    dsimp only at isFound isLast
    rw [ofBuffered?_eq_ofJson?] at isFound
    split at isFound
    · next isValue =>
        cases isFound
        split at isLast
        · next areSpaces =>
            cases isLast
            exact
              ⟨json, Json.read_eq_ok_iff.mpr ⟨rest, isJson, Json.areSpaces_of_skipSpace areSpaces⟩,
                isValue⟩
        · contradiction
    · contradiction
  · rintro ⟨json, isRead, isValue⟩
    rcases Json.read_eq_ok_iff.mp isRead with ⟨rest, isJson, areSpaces⟩
    rw [read, isJson, Outcome.ok_bind]
    dsimp only
    rw [ofBuffered?_eq_ofJson?, isValue]
    dsimp only
    rw [Json.finish, Outcome.ok_bind]
    dsimp only
    rw [Json.skipSpace_of_areSpaces areSpaces]
    rfl

/-! ## Integers and reals -/

theorem ofJson?_eq_integer_iff
    {json : Json}
    {word : Int64} :
    ofJson? json = some (.integer word) ↔ json = .integer word.toInt := by
  constructor
  · intro isValue
    cases json with
    | integer number =>
        rw [ofJson?, ofInt] at isValue
        split at isValue
        · next fits =>
            cases isValue
            rw [fitsWord, Bool.and_eq_true, decide_eq_true_iff, decide_eq_true_iff] at fits
            rw [Int64.toInt_ofInt_of_le fits.1 (Int.lt_of_le_of_lt fits.2 (by decide))]
        · cases isValue
    | array | object => contradiction
    | _ => cases isValue
  · rintro rfl
    rw [ofJson?, ofInt_toInt]

theorem isNumber_iff_of_ofJson?
    {json : Json}
    {value : Value}
    (isValue : ofJson? json = some value) :
    json.IsNumber ↔ (∃ word, value = .integer word) ∨ ∃ number, value = .real number := by
  cases json with
  | integer number =>
      cases isValue
      refine iff_of_true trivial ?_
      rw [ofInt]
      split
      · exact .inl ⟨_, rfl⟩
      · exact .inr ⟨_, rfl⟩
  | real number =>
      cases isValue
      exact iff_of_true trivial (.inr ⟨number, rfl⟩)
  | array | object => contradiction
  | _ =>
      cases isValue
      simp [Json.IsNumber]

theorem read_eq_integer_iff
    {text : String}
    {word : Int64} :
    read text = .ok (.integer word) ↔ Json.WritesWhole text.toList word.toInt := by
  have fits : -2 ^ 63 ≤ word.toInt ∧ word.toInt < 2 ^ 64 :=
    ⟨word.le_toInt, Int.lt_trans word.toInt_lt (by decide)⟩
  rw [read_eq_ok_iff]
  constructor
  · rintro ⟨json, isRead, isValue⟩
    rw [ofJson?_eq_integer_iff.mp isValue] at isRead
    exact (Json.read_eq_integer_iff.mp isRead).1
  · intro writes
    exact
      ⟨.integer word.toInt, Json.read_eq_integer_iff.mpr ⟨writes, fits⟩,
        ofJson?_eq_integer_iff.mpr rfl⟩

theorem isNumber_iff_of_read
    {text : String}
    {value : Value}
    (isRead : read text = .ok value) :
    Json.StartsNumber text.toList ↔
      (∃ word, value = .integer word) ∨ ∃ number, value = .real number := by
  rcases read_eq_ok_iff.mp isRead with ⟨json, isJson, isValue⟩
  rcases Json.read_eq_ok_iff.mp isJson with ⟨rest, isFirst, _⟩
  rw [← Json.isNumber_iff_of_readValue isFirst, isNumber_iff_of_ofJson? isValue]

/--
A text that is read as a value is read as the value that its JSON has.

The value is an integer exactly when the text writes a whole number that fits
a signed word, and a real when the text is any other number.
-/
theorem readers_agree (text : String) :
    (∀ value,
      read text = .ok value ↔ ∃ json, Json.read text = .ok json ∧ ofJson? json = some value) ∧
    (∀ word : Int64,
      read text = .ok (.integer word) ↔ Json.WritesWhole text.toList word.toInt) ∧
    ((∃ number, read text = .ok (.real number)) ↔
      (∃ value, read text = .ok value) ∧ Json.StartsNumber text.toList ∧
        ¬∃ word : Int64, Json.WritesWhole text.toList word.toInt) := by
  refine ⟨fun _ => read_eq_ok_iff, fun _ => read_eq_integer_iff, ?_⟩
  constructor
  · rintro ⟨number, isRead⟩
    refine ⟨⟨_, isRead⟩, (isNumber_iff_of_read isRead).mpr (.inr ⟨number, rfl⟩), ?_⟩
    rintro ⟨word, writes⟩
    rw [read_eq_integer_iff.mpr writes] at isRead
    cases isRead
  · rintro ⟨⟨value, isRead⟩, starts, noInteger⟩
    rcases (isNumber_iff_of_read isRead).mp starts with ⟨word, rfl⟩ | ⟨number, rfl⟩
    · exact absurd ⟨word, read_eq_integer_iff.mp isRead⟩ noInteger
    · exact ⟨number, isRead⟩

end RecordStore.Value
