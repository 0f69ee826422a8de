import Mathlib.Tactic.SplitIfs
import RecordStore.Criteria.Grammar
import RecordStore.Criteria.WellFormed
import RecordStore.Proofs.Outcome

/-!
# Operators from descriptors

Which descriptors have an operator, and what is known of it.  A key selects
an operator in its long and in its short form and in no other; an operand is
taken exactly when it fits the key; and the operator that comes out is well
formed, because it has been normalized.
-/

namespace RecordStore

namespace Value

theorem isSome_ofJson?_iff (json : Json) :
    (ofJson? json).isSome = true ↔ json.IsScalar := by
  cases json <;> simp [ofJson?, Json.IsScalar]

/-- Null is the only JSON value that is the value null. -/
@[simp]
theorem ofJson?_eq_null_iff (json : Json) :
    ofJson? json = some .null ↔ json = .null := by
  cases json with
  | integer number => simp [ofJson?, ofInt]; split <;> simp
  | _ => simp [ofJson?]

theorem exists_of_isScalar
    {json : Json}
    (isScalar : json.IsScalar) :
    ∃ value, ofJson? json = some value := by
  exact Option.isSome_iff_exists.mp ((isSome_ofJson?_iff json).mpr isScalar)

theorem isScalar_of_ofJson?
    {json : Json}
    {value : Value}
    (read : ofJson? json = some value) :
    json.IsScalar := by
  rw [← isSome_ofJson?_iff, read]
  rfl

theorem fitsWord_toInt (word : Int64) : fitsWord word.toInt = true := by
  rw [fitsWord, Bool.and_eq_true, decide_eq_true_iff, decide_eq_true_iff]
  exact ⟨word.minValue_le_toInt, word.toInt_le⟩

theorem ofInt_toInt (word : Int64) : ofInt word.toInt = .integer word := by
  simp [ofInt, fitsWord_toInt]

theorem ofJson?_toJson
    {value : Value}
    (isFinite : value.isFinite = true) :
    ofJson? value.toJson = some value := by
  cases value with
  | integer number => rw [toJson, ofJson?, ofInt_toInt]
  | real number =>
      rw [Value.isFinite] at isFinite
      rw [toJson, if_pos isFinite, ofJson?]
  | _ => rfl

theorem isNull_eq_true_iff (value : Value) : value.isNull = true ↔ value = .null := by
  cases value <;> simp [isNull]

end Value

namespace Operator

/-! ## Keys -/

namespace Selection

def key : Selection → String
  | comparison symbol => symbol.key
  | membership negated => memberKey negated
  | nullity => nullKey

def shortKey : Selection → String
  | comparison symbol => symbol.shortKey
  | membership negated => shortMemberKey negated
  | nullity => shortNullKey

end Selection

/-- A key selects an operator exactly when it is one of the operator's two keys. -/
theorem select?_eq_some_iff (key : String) (selection : Selection) :
    select? key = some selection ↔
      key ∈ Filter.keys selection.key selection.shortKey := by
  simp only [Filter.keys, List.mem_cons, List.not_mem_nil, or_false]
  constructor
  · intro selected
    unfold select? at selected
    split at selected
    · next comparison found =>
        have isKey := List.find?_some found
        cases selected
        simpa [Selection.key, Selection.shortKey] using isKey
    · split_ifs at selected with isMember isNegated isNullity
      · cases selected
        simpa [Selection.key, Selection.shortKey] using isMember
      · cases selected
        simpa [Selection.key, Selection.shortKey] using isNegated
      · cases selected
        simpa [Selection.key, Selection.shortKey] using isNullity
  · intro isKey
    cases selection with
    | comparison comparison =>
        cases comparison <;> rcases isKey with rfl | rfl <;> decide
    | membership negated =>
        cases negated <;> rcases isKey with rfl | rfl <;> decide
    | nullity =>
        rcases isKey with rfl | rfl <;> decide

/-! ## Operands -/

/-- The members of a set are read exactly when every one of them is a value. -/
theorem readMembers_eq_ok_iff
    (key : String)
    (items : List Json)
    (values : List Value) :
    readMembers key items = .ok values ↔
      items.map Value.ofJson? = values.map some := by
  induction items generalizing values with
  | nil => cases values <;> simp [readMembers]
  | cons item items induction =>
      cases read : Value.ofJson? item with
      | none => cases values <;> simp [readMembers, read]
      | some first =>
          simp only [readMembers, read, Outcome.bind_eq_ok_iff, induction, List.map_cons]
          constructor
          · rintro ⟨others, same, equal⟩
            cases equal
            rw [same, List.map_cons]
          · intro same
            cases values with
            | nil => simp at same
            | cons value others =>
                simp only [List.map_cons, List.cons.injEq, Option.some.injEq] at same
                rcases same with ⟨rfl, othersSame⟩
                exact ⟨others, othersSame, rfl⟩

theorem wellFormed_of_normalize
    {operator normalized : Operator}
    (accepted : operator.normalize = .ok normalized) :
    normalized.WellFormed := by
  unfold normalize at accepted
  split at accepted
  · cases accepted
    trivial
  · cases accepted
    trivial
  · contradiction
  · next comparison operand notEqual notNotEqual notNull =>
      cases accepted
      exact notNull
  · next negated members =>
      split_ifs at accepted with isEmpty hasNull
      cases accepted
      refine ⟨by simpa using isEmpty, ?_⟩
      intro value member isNull
      apply hasNull
      exact List.any_eq_true.mpr ⟨value, member, (Value.isNull_eq_true_iff value).mpr isNull⟩
  · cases accepted
    trivial

/-- Well-formed operators are normalized already. -/
theorem normalize_of_wellFormed
    {operator : Operator}
    (wellFormed : operator.WellFormed) :
    operator.normalize = .ok operator := by
  cases operator with
  | compare comparison operand =>
      cases operand with
      | null => exact absurd rfl wellFormed
      | _ => cases comparison <;> rfl
  | member negated members =>
      have noNull : members.any Value.isNull = false := by
        apply List.any_eq_false.mpr
        intro value isMember
        rw [Value.isNull_eq_true_iff]
        exact wellFormed.2 value isMember
      rw [normalize, if_neg (by simpa using wellFormed.1), if_neg (by simp [noNull])]
  | isNull flag => rfl

/-- The operator has a meaning in SQL, if need be as a test for null. -/
def Admissible : Operator → Prop
  | compare comparison operand =>
      operand = .null → comparison = .equal ∨ comparison = .notEqual
  | member _ members => members ≠ [] ∧ .null ∉ members
  | isNull _ => True

theorem exists_normalize_iff (operator : Operator) :
    (∃ normalized, operator.normalize = .ok normalized) ↔ operator.Admissible := by
  cases operator with
  | compare comparison operand =>
      cases operand with
      | null => cases comparison <;> simp [normalize, Admissible]
      | _ => cases comparison <;> simp [normalize, Admissible]
  | member negated members =>
      have anyNull : members.any Value.isNull = true ↔ .null ∈ members := by
        simp [Value.isNull_eq_true_iff]
      simp only [normalize, Admissible, List.isEmpty_iff, anyNull]
      split_ifs with isEmpty hasNull
      · simp [isEmpty]
      · simp [hasNull]
      · simp [isEmpty, hasNull]
  | isNull flag => simp [normalize, Admissible]

/-! ## Descriptors -/

theorem exists_values
    {items : List Json}
    (areScalars : ∀ item ∈ items, item.IsScalar) :
    ∃ values : List Value, items.map Value.ofJson? = values.map some := by
  induction items with
  | nil => exact ⟨[], rfl⟩
  | cons item items induction =>
      rcases Value.exists_of_isScalar (areScalars item List.mem_cons_self) with ⟨value, read⟩
      rcases
          induction fun other member => areScalars other (List.mem_cons_of_mem item member) with
        ⟨values, same⟩
      exact ⟨value :: values, by simp [read, same]⟩

/-- A list of values comes from scalars, and null among them from null. -/
theorem isScalar_of_values
    {items : List Json}
    {values : List Value}
    (same : items.map Value.ofJson? = values.map some)
    {item : Json}
    (member : item ∈ items) :
    item.IsScalar ∧ (item = .null → .null ∈ values) := by
  have image : Value.ofJson? item ∈ values.map some := by
    rw [← same]
    exact List.mem_map_of_mem member
  rcases List.mem_map.mp image with ⟨value, valueMember, read⟩
  refine ⟨Value.isScalar_of_ofJson? read.symm, ?_⟩
  rintro rfl
  cases read
  exact valueMember

section Selected

variable {key : String}

theorem readDescriptor_comparison
    {comparison : Comparison}
    (selected : select? key = some (.comparison comparison))
    {operand : Json}
    {value : Value}
    (isValue : Value.ofJson? operand = some value) :
    readDescriptor key operand = .ok (compare comparison value) := by
  simp [readDescriptor, selected, isValue]

theorem readDescriptor_membership
    {negated : Bool}
    (selected : select? key = some (.membership negated))
    {items : List Json}
    {values : List Value}
    (areValues : items.map Value.ofJson? = values.map some) :
    readDescriptor key (.array items) = .ok (member negated values) := by
  have read := (readMembers_eq_ok_iff key items values).mpr areValues
  simp [readDescriptor, selected, read]

theorem readDescriptor_nullity
    (selected : select? key = some .nullity)
    (flag : Bool) :
    readDescriptor key (.boolean flag) = .ok (isNull flag) := by
  simp [readDescriptor, selected]

/-- A descriptor of a well-formed operator means it. -/
theorem ofDescriptor_of_readDescriptor
    {operand : Json}
    {operator : Operator}
    (read : readDescriptor key operand = .ok operator)
    (wellFormed : operator.WellFormed) :
    ofDescriptor key operand = .ok operator := by
  rw [ofDescriptor, read, Outcome.ok_bind, normalize_of_wellFormed wellFormed]

end Selected

/-- An operand that fits its key spells an admissible operator. -/
theorem exists_readDescriptor
    {key : String}
    {operand : Json}
    (fits : Filter.Fits key operand) :
    ∃ operator, readDescriptor key operand = .ok operator ∧ operator.Admissible := by
  cases fits with
  | @equality comparison key operand isEquality isKey isScalar =>
      have selected := (select?_eq_some_iff key (.comparison comparison)).mpr isKey
      rcases Value.exists_of_isScalar isScalar with ⟨value, read⟩
      exact
        ⟨compare comparison value, readDescriptor_comparison selected read, fun _ => isEquality⟩
  | @ordering comparison key operand isOrdering isKey isScalar notNull =>
      have selected := (select?_eq_some_iff key (.comparison comparison)).mpr isKey
      rcases Value.exists_of_isScalar isScalar with ⟨value, read⟩
      refine ⟨compare comparison value, readDescriptor_comparison selected read, ?_⟩
      rintro rfl
      exact absurd ((Value.ofJson?_eq_null_iff operand).mp read) notNull
  | @membership negated key items isKey hasMember areScalars =>
      have selected := (select?_eq_some_iff key (.membership negated)).mpr isKey
      rcases exists_values fun item member => (areScalars item member).1 with ⟨values, same⟩
      refine ⟨member negated values, readDescriptor_membership selected same, ?_, ?_⟩
      · rintro rfl
        exact hasMember (List.map_eq_nil_iff.mp same)
      · intro hasNull
        have image : some Value.null ∈ items.map Value.ofJson? := by
          rw [same]
          exact List.mem_map_of_mem hasNull
        rcases List.mem_map.mp image with ⟨item, member, isNull⟩
        exact (areScalars item member).2 ((Value.ofJson?_eq_null_iff item).mp isNull)
  | @nullity key isKey flag =>
      have selected := (select?_eq_some_iff key .nullity).mpr isKey
      exact ⟨isNull flag, readDescriptor_nullity selected flag, trivial⟩

/-- An operand that spells an admissible operator fits its key. -/
theorem fits_of_readDescriptor
    {key : String}
    {operand : Json}
    {operator : Operator}
    (accepted : readDescriptor key operand = .ok operator)
    (admissible : operator.Admissible) :
    Filter.Fits key operand := by
  unfold readDescriptor at accepted
  split at accepted
  · contradiction
  · next comparison selected =>
      have isKey := (select?_eq_some_iff key (.comparison comparison)).mp selected
      split at accepted
      · next value read =>
          cases accepted
          have isScalar := Value.isScalar_of_ofJson? read
          by_cases isEquality : comparison = .equal ∨ comparison = .notEqual
          · exact .equality isEquality isKey isScalar
          · refine .ordering (not_or.mp isEquality) isKey isScalar ?_
            rintro rfl
            cases read
            exact isEquality (admissible rfl)
      · contradiction
  · next negated selected =>
      have isKey := (select?_eq_some_iff key (.membership negated)).mp selected
      split at accepted
      · next items =>
          rcases Outcome.bind_eq_ok_iff.mp accepted with ⟨values, read, equal⟩
          cases equal
          have same := (readMembers_eq_ok_iff key items values).mp read
          refine .membership isKey ?_ ?_
          · rintro rfl
            exact admissible.1 (List.map_eq_nil_iff.mp same.symm)
          · intro item member
            rcases isScalar_of_values same member with ⟨isScalar, hasNull⟩
            exact ⟨isScalar, fun isNull => admissible.2 (hasNull isNull)⟩
      · contradiction
  · next selected =>
      have isKey := (select?_eq_some_iff key .nullity).mp selected
      split at accepted
      · next flag => exact .nullity isKey flag
      · contradiction

/-- A descriptor means an operator exactly when its operand fits its key. -/
theorem fits_iff (key : String) (operand : Json) :
    Filter.Fits key operand ↔ ∃ operator, ofDescriptor key operand = .ok operator := by
  constructor
  · intro fits
    rcases exists_readDescriptor fits with ⟨operator, read, admissible⟩
    rcases (exists_normalize_iff operator).mpr admissible with ⟨normalized, accepted⟩
    exact ⟨normalized, Outcome.bind_eq_ok_iff.mpr ⟨operator, read, accepted⟩⟩
  · rintro ⟨normalized, accepted⟩
    rcases Outcome.bind_eq_ok_iff.mp accepted with ⟨operator, read, accepted⟩
    exact fits_of_readDescriptor read
      ((exists_normalize_iff operator).mp ⟨normalized, accepted⟩)

theorem wellFormed_of_ofDescriptor
    {key : String}
    {operand : Json}
    {operator : Operator}
    (accepted : ofDescriptor key operand = .ok operator) :
    operator.WellFormed := by
  rcases Outcome.bind_eq_ok_iff.mp accepted with ⟨spelled, read, normalized⟩
  exact wellFormed_of_normalize normalized

end Operator

end RecordStore
