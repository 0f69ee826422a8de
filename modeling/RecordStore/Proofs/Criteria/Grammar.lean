import RecordStore.Proofs.Criteria.WellFormed
import RecordStore.Proofs.Identifier
import RecordStore.Proofs.Json
import RecordStore.Proofs.Pointwise

/-!
# Filters are read exactly when they are in the language

Reading goes down a JSON value through four functions that call each other;
the language of filters is given by rules.  What is read is in the language,
by induction over the value, and what is in the language is read, by
induction over the rules.  The criteria that come out are well formed, and
whatever is refused is refused as malformed.
-/

namespace RecordStore

namespace Junction

theorem ofKey?_eq_some_iff (key : String) (junction : Junction) :
    ofKey? key = some junction ↔ key = junction.key := by
  constructor
  · intro found
    unfold ofKey? at found
    split_ifs at found with isAnd isOr
    · cases found
      exact isAnd
    · cases found
      exact isOr
  · rintro rfl
    exact ofKey?_key junction

end Junction

namespace Field

theorem exists_read_iff (key : String) :
    (∃ field, read key = .ok field) ↔ Filter.IsFieldKey key := by
  simp only [read, Outcome.mapError_eq_ok_iff, parse, Filter.IsFieldKey]
  split_ifs with isIdentity
  · simp [isIdentity]
  · constructor
    · rintro ⟨field, accepted⟩
      rcases Outcome.bind_eq_ok_iff.mp accepted with ⟨checked, isIdentifier, -⟩
      exact .inr isIdentifier
    · rintro (identity | isIdentifier)
      · exact absurd identity isIdentity
      · exact ⟨column key, by rw [isIdentifier, Outcome.ok_bind]⟩

end Field

namespace Filter

/-- The key of a field introduces no group. -/
theorem IsFieldKey.ofKey?_eq_none
    {key : String}
    (isField : IsFieldKey key) :
    Junction.ofKey? key = none := by
  cases found : Junction.ofKey? key with
  | none => rfl
  | some junction =>
      rcases (Junction.ofKey?_eq_some_iff key junction).mp found with rfl
      rcases isField with isIdentity | isIdentifier
      · cases junction <;> exact absurd isIdentity (by decide)
      · rcases
            (Identifier.check_eq_ok_iff junction.key).mp isIdentifier with
          ⟨first, rest, spelled, -, isStart, -, -⟩
        cases junction <;> cases spelled <;> exact absurd isStart (by decide)

end Filter

namespace CriteriaFault

variable {α β : Type}

/-- Whatever a computation refuses, it refuses as malformed. -/
def OnlyInvalid (result : Except CriteriaFault α) : Prop :=
  ∀ fault, result = .error fault → fault.kind = .invalid

theorem onlyInvalid_ok (value : α) : OnlyInvalid (.ok value) := by
  intro fault refused
  contradiction

theorem onlyInvalid_error
    {fault : CriteriaFault}
    (isInvalid : fault.kind = .invalid) :
    OnlyInvalid (.error fault : Except CriteriaFault α) := by
  intro other refused
  cases refused
  exact isInvalid

theorem OnlyInvalid.bind
    {first : Except CriteriaFault α}
    {next : α → Except CriteriaFault β}
    (firstInvalid : OnlyInvalid first)
    (nextInvalid : ∀ value, OnlyInvalid (next value)) :
    OnlyInvalid (first >>= next) := by
  intro fault refused
  rcases Outcome.bind_eq_error_iff.mp refused with atFirst | ⟨value, -, atNext⟩
  · exact firstInvalid fault atFirst
  · exact nextInvalid value fault atNext

theorem onlyInvalid_identifier (result : Except IdentifierFault α) :
    OnlyInvalid (result.mapError .identifier) := by
  intro fault refused
  rcases Outcome.mapError_eq_error_iff.mp refused with ⟨origin, -, rfl⟩
  rfl

theorem onlyInvalid_operator (result : Except OperatorFault α) :
    OnlyInvalid (result.mapError .operator) := by
  intro fault refused
  rcases Outcome.mapError_eq_error_iff.mp refused with ⟨origin, -, rfl⟩
  rfl

end CriteriaFault

namespace Criteria

open CriteriaFault (OnlyInvalid onlyInvalid_ok onlyInvalid_error)

/-! ## Entries of fields -/

theorem readOperator_of_isScalar
    (field : String)
    {value : Json}
    (isScalar : value.IsScalar) :
    readOperator field value =
      (Operator.ofDescriptor Comparison.equal.key value).mapError .operator := by
  cases value with
  | array elements => exact isScalar.elim
  | object members => exact isScalar.elim
  | _ => rfl

/-- The value of a field's entry is a scalar, or a descriptor with one operator. -/
inductive IsTest : Json → Prop where
  | scalar
      {value : Json}
      (isScalar : value.IsScalar) :
      IsTest value
  | descriptor
      {operator : String}
      {operand : Json}
      (fits : Filter.Fits operator operand) :
      IsTest (.object [(operator, operand)])

/--
How the value of a field's entry is read: as the descriptor that it spells or
stands for, or else it is refused as malformed.
-/
theorem readOperator_cases (field : String) (value : Json) :
    (∃ key operand,
        readOperator field value =
            (Operator.ofDescriptor key operand).mapError .operator ∧
          (IsTest value ↔ Filter.Fits key operand)) ∨
      (∃ fault,
        readOperator field value = .error fault ∧
          fault.kind = .invalid ∧ ¬IsTest value) := by
  have noTest {value : Json} (isTest : IsTest value) (noScalar : ¬value.IsScalar) :
      ∃ operator operand, value = .object [(operator, operand)] := by
    cases isTest with
    | scalar isScalar => exact absurd isScalar noScalar
    | descriptor fits => exact ⟨_, _, rfl⟩
  cases value with
  | array elements =>
      refine .inr ⟨_, rfl, rfl, ?_⟩
      intro isTest
      rcases noTest isTest id with ⟨_, _, spelled⟩
      contradiction
  | object descriptor =>
      match descriptor with
      | [] =>
          refine .inr ⟨_, rfl, rfl, ?_⟩
          intro isTest
          rcases noTest isTest id with ⟨_, _, spelled⟩
          contradiction
      | [(key, operand)] =>
          refine .inl ⟨key, operand, rfl, ?_⟩
          constructor
          · intro isTest
            cases isTest with
            | scalar isScalar => exact isScalar.elim
            | descriptor fits => exact fits
          · intro fits
            exact .descriptor fits
      | _ :: _ :: _ =>
          refine .inr ⟨_, rfl, rfl, ?_⟩
          intro isTest
          rcases noTest isTest id with ⟨_, _, spelled⟩
          simp at spelled
  | _ =>
      refine .inl ⟨_, _, readOperator_of_isScalar field trivial, ?_⟩
      constructor
      · intro isTest
        exact .equality (.inl rfl) List.mem_cons_self trivial
      · intro fits
        exact .scalar trivial

theorem exists_readOperator_iff (field : String) (value : Json) :
    (∃ operator, readOperator field value = .ok operator) ↔ IsTest value := by
  rcases readOperator_cases field value with
    ⟨key, operand, read, sameTest⟩ | ⟨fault, read, -, noTest⟩
  · simp only [read, sameTest, Operator.fits_iff, Outcome.mapError_eq_ok_iff]
  · simp [read, noTest]

theorem wellFormed_of_readOperator
    {field : String}
    {value : Json}
    {operator : Operator}
    (accepted : readOperator field value = .ok operator) :
    operator.WellFormed := by
  rcases readOperator_cases field value with
    ⟨key, operand, read, -⟩ | ⟨fault, read, -, -⟩
  · rw [read] at accepted
    exact Operator.wellFormed_of_ofDescriptor (Outcome.mapError_eq_ok_iff.mp accepted)
  · rw [read] at accepted
    contradiction

theorem onlyInvalid_readOperator (field : String) (value : Json) :
    OnlyInvalid (readOperator field value) := by
  rcases readOperator_cases field value with
    ⟨key, operand, read, -⟩ | ⟨fault, read, isInvalid, -⟩
  · rw [read]
    exact CriteriaFault.onlyInvalid_operator _
  · rw [read]
    exact onlyInvalid_error isInvalid

theorem exists_readCondition_iff (key : String) (value : Json) :
    (∃ criterion, readCondition key value = .ok criterion) ↔
      Filter.IsFieldKey key ∧ IsTest value := by
  rw [← Field.exists_read_iff, ← exists_readOperator_iff key]
  constructor
  · rintro ⟨criterion, accepted⟩
    rcases Outcome.bind_eq_ok_iff.mp accepted with ⟨field, fieldRead, accepted⟩
    rcases Outcome.bind_eq_ok_iff.mp accepted with ⟨operator, operatorRead, -⟩
    exact ⟨⟨field, fieldRead⟩, ⟨operator, operatorRead⟩⟩
  · rintro ⟨⟨field, fieldRead⟩, ⟨operator, operatorRead⟩⟩
    exact ⟨.condition field operator, by simp [readCondition, fieldRead, operatorRead]⟩

theorem wellFormed_of_readCondition
    {key : String}
    {value : Json}
    {criterion : Criterion}
    (accepted : readCondition key value = .ok criterion) :
    WellFormedCriterion criterion := by
  rcases Outcome.bind_eq_ok_iff.mp accepted with ⟨field, fieldRead, accepted⟩
  rcases Outcome.bind_eq_ok_iff.mp accepted with ⟨operator, operatorRead, equal⟩
  cases equal
  exact ⟨Field.wellFormed_of_read fieldRead, wellFormed_of_readOperator operatorRead⟩

theorem onlyInvalid_readCondition (key : String) (value : Json) :
    OnlyInvalid (readCondition key value) := by
  apply OnlyInvalid.bind (CriteriaFault.onlyInvalid_identifier _)
  intro field
  apply OnlyInvalid.bind (onlyInvalid_readOperator key value)
  intro operator
  exact onlyInvalid_ok _

/-! ## Entries, objects and branches -/

/-- An entry without the key of a group is the entry of a field. -/
theorem ofMember_of_ofKey?_eq_none
    {key : String}
    (notGroup : Junction.ofKey? key = none)
    (value : Json) :
    ofMember key value = readCondition key value := by
  cases value <;> simp [ofMember, notGroup]

/-- The entry of a group is read exactly when its value is an array of proper branches. -/
theorem ofMember_key_eq_ok_iff
    (junction : Junction)
    (value : Json)
    (criterion : Criterion) :
    ofMember junction.key value = .ok criterion ↔
      ∃ items branches, value = .array items ∧
        ofBranches junction items = .ok branches ∧
        (Criterion.group junction branches).validate = .ok criterion := by
  cases value with
  | array items => simp [ofMember, Outcome.bind_eq_ok_iff]
  | _ => simp [ofMember]

theorem ofMembers_eq_mapM (members : List (String × Json)) :
    ofMembers members = members.mapM fun entry => ofMember entry.1 entry.2 := by
  induction members with
  | nil => rw [ofMembers, List.mapM_nil]; rfl
  | cons entry rest induction => rw [ofMembers, List.mapM_cons, induction]; rfl

theorem ofMembers_eq_ok_iff
    (members : List (String × Json))
    (criteria : Criteria) :
    ofMembers members = .ok criteria ↔
      List.Forall₂ (fun entry criterion => ofMember entry.1 entry.2 = .ok criterion)
        members criteria := by
  rw [ofMembers_eq_mapM, Pointwise.mapM_eq_ok_iff]

/-- Arrays of branches are read object by object. -/
theorem ofBranches_eq_ok_iff
    (junction : Junction)
    (items : List Json)
    (branches : List Criteria) :
    ofBranches junction items = .ok branches ↔
      ∃ objects, items = objects.map .object ∧
        List.Forall₂ (fun members criteria => ofMembers members = .ok criteria)
          objects branches := by
  induction items generalizing branches with
  | nil => simp [ofBranches, eq_comm]
  | cons item rest induction =>
      cases item with
      | object members =>
          simp only [ofBranches, Outcome.bind_eq_ok_iff, induction]
          constructor
          · rintro ⟨branch, first, others, ⟨objects, rfl, following⟩, equal⟩
            cases equal
            exact ⟨members :: objects, rfl, .cons first following⟩
          · rintro ⟨objects, spelled, each⟩
            cases each with
            | nil => simp at spelled
            | @cons object branch objects others first following =>
                simp only [List.map_cons, List.cons.injEq, Json.object.injEq] at spelled
                rcases spelled with ⟨rfl, rfl⟩
                exact ⟨branch, first, others, ⟨objects, rfl, following⟩, rfl⟩
      | _ =>
          simp only [ofBranches, reduceCtorEq, false_iff]
          rintro ⟨objects, spelled, -⟩
          cases objects <;> simp at spelled

theorem eq_nil_iff_of_ofMembers
    {members : List (String × Json)}
    {criteria : Criteria}
    (accepted : ofMembers members = .ok criteria) :
    criteria = [] ↔ members = [] := by
  exact (Pointwise.eq_nil_iff ((ofMembers_eq_ok_iff members criteria).mp accepted)).symm

/-! ## From reading to the rules -/

/-- Under whatever key a value is read as an entry, the two are an entry. -/
def ReadAsEntry (value : Json) : Prop :=
  ∀ key criterion, ofMember key value = .ok criterion → Filter.IsEntry key value

/-- The branches of a group are read only as branches, if their values are read only as entries. -/
theorem isEntry_of_ofBranches
    {junction : Junction}
    {items : List Json}
    (elements :
      ∀ members, .object members ∈ items → ∀ entry ∈ members, ReadAsEntry entry.2)
    {branches : List Criteria}
    (read : ofBranches junction items = .ok branches)
    {criterion : Criterion}
    (validated : (Criterion.group junction branches).validate = .ok criterion) :
    Filter.IsEntry junction.key (.array items) := by
  rcases (ofBranches_eq_ok_iff junction items branches).mp read with ⟨objects, rfl, each⟩
  rcases
      (validate_group_eq_ok_iff junction branches criterion).mp validated with
    ⟨hasBranch, nonempty, -⟩
  refine .group junction ?_ ?_ ?_
  · rintro rfl
    exact hasBranch (List.forall₂_nil_left_iff.mp each)
  · intro object isObject
    rcases Pointwise.exists_right each isObject with ⟨branch, isBranch, accepted⟩
    exact mt (eq_nil_iff_of_ofMembers accepted).mpr (nonempty branch isBranch)
  · intro object isObject entry isMember
    rcases Pointwise.exists_right each isObject with ⟨branch, isBranch, accepted⟩
    rcases
        Pointwise.exists_right ((ofMembers_eq_ok_iff object branch).mp accepted) isMember with
      ⟨member, -, entryRead⟩
    exact
      elements object (List.mem_map_of_mem isObject) entry isMember entry.1 member entryRead

theorem readAsEntry (value : Json) : ReadAsEntry value := by
  induction value using Json.branchInduction with
  | step value induction =>
      intro key criterion accepted
      cases found : Junction.ofKey? key with
      | none =>
          rw [ofMember_of_ofKey?_eq_none found] at accepted
          rcases
              (exists_readCondition_iff key value).mp ⟨criterion, accepted⟩ with
            ⟨isField, isTest⟩
          cases isTest with
          | scalar isScalar => exact .scalar isField isScalar
          | descriptor fits => exact .descriptor isField fits
      | some junction =>
          rcases (Junction.ofKey?_eq_some_iff key junction).mp found with rfl
          rcases
              (ofMember_key_eq_ok_iff junction value criterion).mp accepted with
            ⟨items, branches, rfl, read, validated⟩
          exact isEntry_of_ofBranches (induction items rfl) read validated

/-! ## From the rules to reading -/

/-- The entry is read, and what it is read as is well formed. -/
def ReadWellFormed (key : String) (value : Json) : Prop :=
  ∃ criterion, ofMember key value = .ok criterion ∧ WellFormedCriterion criterion

theorem exists_ofMembers
    {members : List (String × Json)}
    (entries : ∀ entry ∈ members, ReadWellFormed entry.1 entry.2) :
    ∃ criteria, ofMembers members = .ok criteria ∧ WellFormed criteria := by
  rcases Pointwise.exists_related entries with ⟨criteria, each⟩
  refine ⟨criteria, ?_, ?_⟩
  · apply (ofMembers_eq_ok_iff members criteria).mpr
    exact each.imp fun entry criterion read => read.1
  · apply (wellFormed_iff criteria).mpr
    intro criterion member
    rcases Pointwise.exists_left each member with ⟨entry, -, -, wellFormed⟩
    exact wellFormed

/-- A group is read if the entries of its branches are, and none of them is empty. -/
theorem readWellFormed_group
    (junction : Junction)
    {objects : List (List (String × Json))}
    (hasBranch : objects ≠ [])
    (hasEntry : ∀ object ∈ objects, object ≠ [])
    (entries : ∀ object ∈ objects, ∀ entry ∈ object, ReadWellFormed entry.1 entry.2) :
    ReadWellFormed junction.key (.array (objects.map .object)) := by
  rcases
      Pointwise.exists_related fun object member => exists_ofMembers (entries object member) with
    ⟨branches, each⟩
  have read : ofBranches junction (objects.map .object) = .ok branches := by
    apply (ofBranches_eq_ok_iff junction _ branches).mpr
    exact ⟨objects, rfl, each.imp fun object branch accepted => accepted.1⟩
  have someBranch : branches ≠ [] := mt (Pointwise.eq_nil_iff each).mpr hasBranch
  have proper : ∀ branch ∈ branches, branch ≠ [] ∧ WellFormed branch := by
    intro branch member
    rcases Pointwise.exists_left each member with ⟨object, isObject, accepted, wellFormed⟩
    exact
      ⟨mt (eq_nil_iff_of_ofMembers accepted).mp (hasEntry object isObject), wellFormed⟩
  have validated :
      (Criterion.group junction branches).validate = .ok (.group junction branches) :=
    (validate_group_eq_ok_iff junction branches _).mpr
      ⟨someBranch, fun branch member => (proper branch member).1, rfl⟩
  refine ⟨.group junction branches, ?_, someBranch, ?_⟩
  · exact
      (ofMember_key_eq_ok_iff junction _ _).mpr ⟨_, branches, rfl, read, validated⟩
  · exact (wellFormedBranches_iff branches).mpr proper

theorem readWellFormed_of_isEntry
    {key : String}
    {value : Json}
    (isEntry : Filter.IsEntry key value) :
    ReadWellFormed key value := by
  have field
      {key : String}
      {value : Json}
      (isField : Filter.IsFieldKey key)
      (isTest : IsTest value) :
      ReadWellFormed key value := by
    rcases
        (exists_readCondition_iff key value).mpr ⟨isField, isTest⟩ with
      ⟨criterion, accepted⟩
    refine ⟨criterion, ?_, wellFormed_of_readCondition accepted⟩
    rw [ofMember_of_ofKey?_eq_none isField.ofKey?_eq_none, accepted]
  induction isEntry with
  | scalar isField isScalar => exact field isField (.scalar isScalar)
  | descriptor isField fits => exact field isField (.descriptor fits)
  | group junction hasBranch hasEntry areEntries induction =>
      exact readWellFormed_group junction hasBranch hasEntry induction

theorem exists_ofMembers_of_areEntries
    {members : List (String × Json)}
    (areEntries : ∀ entry ∈ members, Filter.IsEntry entry.1 entry.2) :
    ∃ criteria, ofMembers members = .ok criteria ∧ WellFormed criteria := by
  apply exists_ofMembers
  intro entry member
  exact readWellFormed_of_isEntry (areEntries entry member)

/-- Objects are read exactly when their entries are in the language. -/
theorem exists_ofMembers_iff (members : List (String × Json)) :
    (∃ criteria, ofMembers members = .ok criteria) ↔
      ∀ entry ∈ members, Filter.IsEntry entry.1 entry.2 := by
  constructor
  · rintro ⟨criteria, accepted⟩ entry member
    rcases
        Pointwise.exists_right ((ofMembers_eq_ok_iff members criteria).mp accepted) member with
      ⟨criterion, -, read⟩
    exact readAsEntry entry.2 entry.1 criterion read
  · intro areEntries
    rcases exists_ofMembers_of_areEntries areEntries with ⟨criteria, accepted, -⟩
    exact ⟨criteria, accepted⟩

/-! ## Refusals -/

def EntryOnlyInvalid (value : Json) : Prop :=
  ∀ key, OnlyInvalid (ofMember key value)

theorem onlyInvalid_validate_group
    (junction : Junction)
    (branches : List Criteria) :
    OnlyInvalid (Criterion.group junction branches).validate := by
  rw [Criterion.validate]
  split_ifs
  · exact onlyInvalid_error rfl
  · exact onlyInvalid_error rfl
  · exact onlyInvalid_ok _

theorem onlyInvalid_ofMembers
    {members : List (String × Json)}
    (entries : ∀ entry ∈ members, EntryOnlyInvalid entry.2) :
    OnlyInvalid (ofMembers members) := by
  induction members with
  | nil => exact onlyInvalid_ok []
  | cons entry rest induction =>
      apply OnlyInvalid.bind (entries entry List.mem_cons_self entry.1)
      intro criterion
      apply OnlyInvalid.bind
      · apply induction
        intro later member
        exact entries later (List.mem_cons_of_mem entry member)
      · intro others
        exact onlyInvalid_ok _

theorem onlyInvalid_ofBranches
    (junction : Junction)
    {items : List Json}
    (elements :
      ∀ members, .object members ∈ items → ∀ entry ∈ members, EntryOnlyInvalid entry.2) :
    OnlyInvalid (ofBranches junction items) := by
  induction items with
  | nil => exact onlyInvalid_ok []
  | cons item rest induction =>
      cases item with
      | object members =>
          apply OnlyInvalid.bind
          · exact onlyInvalid_ofMembers (elements members List.mem_cons_self)
          · intro branch
            apply OnlyInvalid.bind
            · apply induction
              intro later member
              exact elements later (List.mem_cons_of_mem _ member)
            · intro others
              exact onlyInvalid_ok _
      | _ => exact onlyInvalid_error rfl

theorem entryOnlyInvalid (value : Json) : EntryOnlyInvalid value := by
  induction value using Json.branchInduction with
  | step value induction =>
      intro key
      cases found : Junction.ofKey? key with
      | none =>
          rw [ofMember_of_ofKey?_eq_none found]
          exact onlyInvalid_readCondition key value
      | some junction =>
          cases value with
          | array items =>
              simp only [ofMember, found]
              apply OnlyInvalid.bind (onlyInvalid_ofBranches junction (induction items rfl))
              intro branches
              exact onlyInvalid_validate_group junction branches
          | _ =>
              simp only [ofMember, found]
              exact onlyInvalid_error rfl

theorem onlyInvalid_ofJson (json : Json) :
    OnlyInvalid (Filter.ofJson json >>= ofFilter) := by
  cases json with
  | null => exact onlyInvalid_ok []
  | object members =>
      exact onlyInvalid_ofMembers fun entry _ => entryOnlyInvalid entry.2
  | _ => exact onlyInvalid_error rfl

/-! ## Filters -/

theorem wellFormed_of_ofFilter
    {filter : Filter}
    {criteria : Criteria}
    (accepted : ofFilter filter = .ok criteria) :
    WellFormed criteria := by
  cases filter with
  | all =>
      cases accepted
      trivial
  | object members =>
      have areEntries := (exists_ofMembers_iff members).mp ⟨criteria, accepted⟩
      rcases exists_ofMembers_of_areEntries areEntries with ⟨others, same, wellFormed⟩
      have equal : criteria = others := Except.ok.inj (accepted.symm.trans same)
      exact equal ▸ wellFormed
  | identity id =>
      cases accepted
      simp [WellFormed, WellFormedCriterion, Field.WellFormed, Operator.WellFormed]

theorem exists_ofJson_iff (json : Json) :
    (∃ criteria, (Filter.ofJson json >>= ofFilter) = .ok criteria) ↔
      Filter.IsFilter json := by
  cases json with
  | null =>
      constructor
      · intro accepted
        exact .null
      · intro isFilter
        exact ⟨[], rfl⟩
  | object members =>
      have read : (Filter.ofJson (.object members) >>= ofFilter) = ofMembers members := rfl
      rw [read, exists_ofMembers_iff]
      constructor
      · intro areEntries
        exact .object areEntries
      · intro isFilter
        cases isFilter with
        | object areEntries => exact areEntries
  | _ =>
      constructor
      · rintro ⟨criteria, accepted⟩
        contradiction
      · intro isFilter
        cases isFilter

/--
Exactly the JSON values in the language of filters have criteria.  Every other
value is refused as malformed, and never as something SQL cannot express.
-/
theorem ofJson_accepts_exactly_filters (json : Json) :
    ((∃ criteria, (Filter.ofJson json >>= ofFilter) = .ok criteria) ↔
        Filter.IsFilter json) ∧
      (¬Filter.IsFilter json →
        ∃ fault, (Filter.ofJson json >>= ofFilter) = .error fault ∧
          fault.kind = .invalid) := by
  refine ⟨exists_ofJson_iff json, ?_⟩
  intro noFilter
  cases read : Filter.ofJson json >>= ofFilter with
  | ok criteria => exact absurd ((exists_ofJson_iff json).mp ⟨criteria, read⟩) noFilter
  | error fault => exact ⟨fault, rfl, onlyInvalid_ofJson json fault read⟩

/-- A descriptor with two operators is refused. -/
theorem ofJson_refuses_crowded_descriptor :
    ∃ fault,
      (Filter.ofJson
          (.object [("age", .object [("greater-than", .integer 1), ("less-than", .integer 5)])]) >>=
        ofFilter) =
          .error fault ∧
        fault.kind = .invalid := by
  have noEntry
      {key : String}
      {value : Json}
      (isEntry : Filter.IsEntry key value)
      (first second : String × Json) :
      value ≠ .object [first, second] := by
    cases isEntry with
    | scalar isField isScalar =>
        rintro rfl
        exact isScalar
    | descriptor isField fits => simp
    | group => simp
  apply (ofJson_accepts_exactly_filters _).2
  intro isFilter
  cases isFilter with
  | object areEntries =>
      exact noEntry (areEntries _ List.mem_cons_self) _ _ rfl

end Criteria

end RecordStore
