import RecordStore.Criteria.Literal
import RecordStore.Proofs.Restriction

/-!
# Literals in operands

Replacing every literal by itself changes nothing.  An operand that fits its
key has a template, which is a condition over literals: with whatever the
literals are replaced, the operand still fits, and the operator that it
spells becomes the template filled with the values of the replacements.
-/

namespace RecordStore

open Sql (Condition)

namespace Literal

/-- A scalar is null or a literal. -/
theorem eq_null_or_exists_toJson
    {json : Json}
    (isScalar : json.IsScalar) :
    json = .null ∨ ∃ literal : Literal, json = literal.toJson := by
  cases json with
  | null => exact .inl rfl
  | boolean flag => exact .inr ⟨.boolean flag, rfl⟩
  | integer number => exact .inr ⟨.integer number, rfl⟩
  | real number => exact .inr ⟨.real number, rfl⟩
  | text content => exact .inr ⟨.text content, rfl⟩
  | array elements => exact isScalar.elim
  | object members => exact isScalar.elim

theorem exists_map_toJson
    {items : List Json}
    (areScalars : ∀ item ∈ items, item.IsScalar ∧ item ≠ .null) :
    ∃ literals : List Literal, items = literals.map toJson := by
  induction items with
  | nil => exact ⟨[], rfl⟩
  | cons item items induction =>
      rcases areScalars item List.mem_cons_self with ⟨isScalar, notNull⟩
      rcases
          induction fun other member => areScalars other (List.mem_cons_of_mem item member) with
        ⟨literals, rfl⟩
      rcases eq_null_or_exists_toJson isScalar with isNull | ⟨literal, rfl⟩
      · exact absurd isNull notNull
      · exact ⟨literal :: literals, rfl⟩

theorem isScalar_toJson (literal : Literal) : literal.toJson.IsScalar := by
  cases literal <;> trivial

theorem value_ne_null (literal : Literal) : literal.value ≠ .null := by
  intro isNull
  have read := value_ofJson? literal
  rw [isNull, Value.ofJson?_eq_null_iff] at read
  cases literal <;> contradiction

/-- The values of replacements in a condition over literals. -/
def fill (replace : Literal → Literal) (part : Condition Literal) : Condition Value :=
  part.map fun literal => (replace literal).value

end Literal

open Literal (fill)

namespace Filter

/-! ## Replacing literals by themselves -/

@[simp]
theorem replaceLiteral_toJson (replace : Literal → Literal) (literal : Literal) :
    replaceLiteral replace literal.toJson = (replace literal).toJson := by
  simp [replaceLiteral]

@[simp]
theorem replaceLiteral_id : replaceLiteral id = id := by
  funext json
  cases json <;> rfl

theorem replaceOperand_id (key : String) (operand : Json) :
    replaceOperand id key operand = operand := by
  unfold replaceOperand
  split
  · rfl
  · cases operand with
    | array items => simp
    | _ => simp

theorem replaceMembers_id
    {members : List (String × Json)}
    (entries : ∀ entry ∈ members, replaceEntry id entry.2 = entry.2) :
    replaceMembers id members = members := by
  induction members with
  | nil => rfl
  | cons entry rest induction =>
      rw [replaceMembers, entries entry List.mem_cons_self, induction]
      intro later member
      exact entries later (List.mem_cons_of_mem entry member)

theorem replaceBranches_id
    {items : List Json}
    (elements :
      ∀ members, .object members ∈ items →
        ∀ entry ∈ members, replaceEntry id entry.2 = entry.2) :
    replaceBranches id items = items := by
  induction items with
  | nil => rfl
  | cons item rest induction =>
      have restSame : replaceBranches id rest = rest := by
        apply induction
        intro members member
        exact elements members (List.mem_cons_of_mem item member)
      cases item with
      | object members =>
          rw [replaceBranches, restSame,
            replaceMembers_id (elements members List.mem_cons_self)]
      | _ => simp [replaceBranches, restSame]

/-- Replacing every literal by itself leaves the value of an entry as it is. -/
theorem replaceEntry_id (value : Json) : replaceEntry id value = value := by
  induction value using Json.branchInduction with
  | step value induction =>
      cases value with
      | array items => rw [replaceEntry, replaceBranches_id (induction items rfl)]
      | object descriptor => simp [replaceEntry, replaceOperand_id]
      | _ => simp [replaceEntry]

end Filter

namespace Operator

/-! ## Operands -/

/-- A key that selects another operator is not that of the test for null. -/
theorem isNullKey_eq_false
    {key : String}
    {selection : Selection}
    (selected : select? key = some selection)
    (other : selection ≠ .nullity) :
    (key = nullKey || key = shortNullKey) = false := by
  apply Bool.eq_false_iff.mpr
  intro isNullKey
  have nullity : select? key = some .nullity := by
    apply (select?_eq_some_iff key .nullity).mpr
    simpa [Filter.keys, Selection.key, Selection.shortKey] using isNullKey
  rw [selected] at nullity
  exact other (Option.some.inj nullity)

/--
A condition over literals is the template of an operand: filled with any
replacements, it is the condition of the operator that the replaced operand
spells.
-/
def IsTemplate
    (column key : String)
    (operand : Json)
    (part : Condition Literal) :
    Prop :=
  part.operands = Filter.operandLiterals key operand ∧
    ∀ replace, ∃ operator,
      ofDescriptor key (Filter.replaceOperand replace key operand) = .ok operator ∧
        operator.toCondition column = .ok (fill replace part)

theorem isTemplate_compare
    (column : String)
    {key : String}
    {comparison : Comparison}
    (selected : select? key = some (.comparison comparison))
    (literal : Literal) :
    IsTemplate column key literal.toJson (.compare column comparison literal) := by
  have notNullKey := isNullKey_eq_false selected (by simp)
  constructor
  · cases literal <;> simp [Filter.operandLiterals, notNullKey, Literal.toJson,
      Literal.ofJson?, Condition.operands]
  · intro replace
    refine ⟨compare comparison (replace literal).value, ?_, rfl⟩
    have replaced :
        Filter.replaceOperand replace key literal.toJson = (replace literal).toJson := by
      cases literal <;> simp [Filter.replaceOperand, notNullKey, Literal.toJson,
        Filter.replaceLiteral, Literal.ofJson?]
    have read :
        readDescriptor key (replace literal).toJson =
          .ok (compare comparison (replace literal).value) := by
      simp [readDescriptor, selected]
    rw [replaced, ofDescriptor, read, Outcome.ok_bind]
    exact normalize_of_wellFormed (replace literal).value_ne_null

/-- Equality with null is the test for null, and has no literal. -/
theorem exists_isTemplate_null
    (column : String)
    {key : String}
    {comparison : Comparison}
    (selected : select? key = some (.comparison comparison))
    (isEquality : comparison = .equal ∨ comparison = .notEqual) :
    ∃ part, IsTemplate column key .null part := by
  have notNullKey := isNullKey_eq_false selected (by simp)
  have literals : Filter.operandLiterals key .null = [] := by
    simp [Filter.operandLiterals, notNullKey, Literal.ofJson?]
  have unchanged (replace : Literal → Literal) :
      Filter.replaceOperand replace key .null = .null := by
    simp [Filter.replaceOperand, notNullKey, Filter.replaceLiteral, Literal.ofJson?]
  have read : readDescriptor key .null = .ok (compare comparison .null) := by
    simp [readDescriptor, selected, Value.ofJson?]
  rcases isEquality with rfl | rfl
  · refine ⟨.isNull column false, literals.symm, ?_⟩
    intro replace
    refine ⟨isNull true, ?_, rfl⟩
    rw [unchanged, ofDescriptor, read]
    rfl
  · refine ⟨.isNull column true, literals.symm, ?_⟩
    intro replace
    refine ⟨isNull false, ?_, rfl⟩
    rw [unchanged, ofDescriptor, read]
    rfl

theorem isTemplate_member
    (column : String)
    {key : String}
    {negated : Bool}
    (selected : select? key = some (.membership negated))
    {literals : List Literal}
    (hasMember : literals ≠ []) :
    IsTemplate column key (.array (literals.map Literal.toJson))
      (.member column negated literals) := by
  have notNullKey := isNullKey_eq_false selected (by simp)
  constructor
  · simp [Filter.operandLiterals, notNullKey, List.filterMap_map,
      Condition.operands]
  · intro replace
    let values := literals.map fun literal => (replace literal).value
    have noneNull : ∀ value ∈ values, value ≠ .null := by
      intro value member
      rcases List.mem_map.mp member with ⟨literal, -, rfl⟩
      exact (replace literal).value_ne_null
    have replaced :
        Filter.replaceOperand replace key (.array (literals.map Literal.toJson)) =
          .array (literals.map fun literal => (replace literal).toJson) := by
      simp [Filter.replaceOperand, notNullKey, Function.comp_def]
    have members :
        readMembers key (literals.map fun literal => (replace literal).toJson) =
          .ok values := by
      apply (readMembers_eq_ok_iff key _ values).mpr
      simp [values, Function.comp_def]
    have read :
        readDescriptor key (.array (literals.map fun literal => (replace literal).toJson)) =
          .ok (member negated values) := by
      simp [readDescriptor, selected, members]
    refine ⟨member negated values, ?_, ?_⟩
    · rw [replaced, ofDescriptor, read, Outcome.ok_bind]
      exact normalize_of_wellFormed ⟨by simpa [values] using hasMember, noneNull⟩
    · cases literals with
      | nil => exact absurd rfl hasMember
      | cons first rest => rfl

theorem isTemplate_isNull
    (column : String)
    {key : String}
    (selected : select? key = some .nullity)
    (flag : Bool) :
    IsTemplate column key (.boolean flag) (.isNull column !flag) := by
  have isNullKey : (key = nullKey || key = shortNullKey) = true := by
    simpa [Filter.keys, Selection.key, Selection.shortKey] using
      (select?_eq_some_iff key .nullity).mp selected
  refine ⟨by simp [Filter.operandLiterals, isNullKey, Condition.operands], ?_⟩
  intro replace
  have unchanged :
      Filter.replaceOperand replace key (.boolean flag) = .boolean flag := by
    simp [Filter.replaceOperand, isNullKey]
  have read : readDescriptor key (.boolean flag) = .ok (isNull flag) := by
    simp [readDescriptor, selected]
  refine ⟨isNull flag, ?_, rfl⟩
  rw [unchanged, ofDescriptor, read]
  rfl

theorem exists_isTemplate
    (column : String)
    {key : String}
    {operand : Json}
    (fits : Filter.Fits key operand) :
    ∃ part, IsTemplate column key operand part := by
  cases fits with
  | @equality comparison key operand isEquality isKey isScalar =>
      have selected := (select?_eq_some_iff key (.comparison comparison)).mpr isKey
      rcases Literal.eq_null_or_exists_toJson isScalar with rfl | ⟨literal, rfl⟩
      · exact exists_isTemplate_null column selected isEquality
      · exact ⟨_, isTemplate_compare column selected literal⟩
  | @ordering comparison key operand isOrdering isKey isScalar notNull =>
      have selected := (select?_eq_some_iff key (.comparison comparison)).mpr isKey
      rcases Literal.eq_null_or_exists_toJson isScalar with rfl | ⟨literal, rfl⟩
      · exact absurd rfl notNull
      · exact ⟨_, isTemplate_compare column selected literal⟩
  | @membership negated key members isKey hasMember areScalars =>
      have selected := (select?_eq_some_iff key (.membership negated)).mpr isKey
      rcases Literal.exists_map_toJson areScalars with ⟨literals, rfl⟩
      have hasLiteral : literals ≠ [] := by
        rintro rfl
        exact hasMember rfl
      exact ⟨_, isTemplate_member column selected hasLiteral⟩
  | @nullity key isKey flag =>
      have selected := (select?_eq_some_iff key .nullity).mpr isKey
      exact ⟨_, isTemplate_isNull column selected flag⟩

end Operator

end RecordStore
