import RecordStore.Proofs.Criteria.Literal

/-!
# Literals never reach the text

The text of a filter's restriction does not depend on the literals in the
filter.  Every entry has a template, as its operand has: a group joins the
templates of its branches.  The text of a condition shows nothing of its
operands, so the text of the restriction is that of the template, and the
parameters are the values filled in, in the order of the literals.
-/

namespace RecordStore

open Sql (Condition)
open Literal (fill)

namespace Criteria

theorem joinAll?_fill
    (junction : Junction)
    (parts : List (Condition Literal))
    (replace : Literal → Literal) :
    Condition.joinAll? junction (parts.map (fill replace)) =
      (Condition.joinAll? junction parts).map (fill replace) := by
  exact Condition.joinAll?_map junction parts fun literal => (replace literal).value

theorem joinBranch_fill
    (parts : List (Condition Literal))
    (replace : Literal → Literal) :
    joinBranch (parts.map (fill replace)) = (joinBranch parts).map (fill replace) := by
  match parts with
  | [] => rfl
  | [only] => rfl
  | first :: second :: rest =>
      have joined := joinAll?_fill .and (first :: second :: rest) replace
      simp only [List.map_cons] at joined
      simp only [List.map_cons, joinBranch, joined, Option.map_map]
      rfl

theorem exists_joinBranch
    {α : Type}
    {parts : List (Condition α)}
    (nonempty : parts ≠ []) :
    ∃ part, joinBranch parts = some part := by
  match parts with
  | [] => exact absurd rfl nonempty
  | [only] => exact ⟨only, rfl⟩
  | first :: second :: rest => exact ⟨_, rfl⟩

/-- What conjunctions put together and parentheses keep, a branch puts together. -/
theorem flatMap_joinBranch
    {α β : Type}
    {list : Condition α → List β}
    (list_and : ∀ left right, list (.and left right) = list left ++ list right)
    (list_paren : ∀ inner, list (.paren inner) = list inner)
    {parts : List (Condition α)}
    {part : Condition α}
    (isJoined : joinBranch parts = some part) :
    list part = parts.flatMap list := by
  match parts with
  | [] => contradiction
  | [only] =>
      cases isJoined
      simp
  | first :: second :: rest =>
      rw [joinBranch] at isJoined
      rcases Option.map_eq_some_iff.mp isJoined with ⟨joined, partsJoined, rfl⟩
      rw [list_paren]
      exact Condition.flatMap_joinAll? list_and partsJoined

theorem operands_joinBranch
    {α : Type}
    {parts : List (Condition α)}
    {part : Condition α}
    (isJoined : joinBranch parts = some part) :
    part.operands = parts.flatMap Condition.operands :=
  flatMap_joinBranch (fun _ _ => rfl) (fun _ => rfl) isJoined

/-! ## Templates of entries -/

/--
A condition over literals is the template of an entry: with any replacements,
the entry is read, and the criterion becomes the template filled with them.
-/
def IsTemplate (key : String) (value : Json) (part : Condition Literal) : Prop :=
  part.operands = Filter.entryLiterals value ∧
    ∀ replace, ∃ criterion,
      ofMember key (Filter.replaceEntry replace value) = .ok criterion ∧
        criterionCondition criterion = .ok (fill replace part)

/-- The entry of a field has the template of its operator. -/
theorem isTemplate_of_operator
    {key : String}
    {field : Field}
    (fieldRead : Field.read key = .ok field)
    {value : Json}
    {part : Condition Literal}
    (literals : part.operands = Filter.entryLiterals value)
    (operators :
      ∀ replace, ∃ operator,
        readOperator key (Filter.replaceEntry replace value) = .ok operator ∧
          operator.toCondition field.sqlName = .ok (fill replace part)) :
    IsTemplate key value part := by
  have isField : Filter.IsFieldKey key := (Field.exists_read_iff key).mp ⟨field, fieldRead⟩
  refine ⟨literals, ?_⟩
  intro replace
  rcases operators replace with ⟨operator, operatorRead, isCondition⟩
  refine ⟨.condition field operator, ?_, isCondition⟩
  rw [ofMember_of_ofKey?_eq_none isField.ofKey?_eq_none]
  simp [readCondition, fieldRead, operatorRead]

theorem exists_isTemplate_of_isTest
    {key : String}
    (isField : Filter.IsFieldKey key)
    {value : Json}
    (isTest : IsTest value) :
    ∃ part, IsTemplate key value part := by
  rcases (Field.exists_read_iff key).mpr isField with ⟨field, fieldRead⟩
  cases isTest with
  | scalar isScalar =>
      -- A bare scalar reads like the operand of an equality, whose key is not that of null.
      have fits : Filter.Fits Comparison.equal.key value :=
        .equality (.inl rfl) List.mem_cons_self isScalar
      rcases Operator.exists_isTemplate field.sqlName fits with ⟨part, literals, operators⟩
      have sameLiterals :
          Filter.operandLiterals Comparison.equal.key value = Filter.entryLiterals value := by
        cases value with
        | array elements => exact isScalar.elim
        | object members => exact isScalar.elim
        | _ => rfl
      refine ⟨part, isTemplate_of_operator fieldRead (literals.trans sameLiterals) ?_⟩
      intro replace
      rcases operators replace with ⟨operator, described, isCondition⟩
      have sameValue :
          Filter.replaceOperand replace Comparison.equal.key value =
            Filter.replaceEntry replace value := by
        cases value with
        | array elements => exact isScalar.elim
        | object members => exact isScalar.elim
        | _ => rfl
      have remainsScalar : (Filter.replaceEntry replace value).IsScalar := by
        rcases Literal.eq_null_or_exists_toJson isScalar with rfl | ⟨literal, rfl⟩
        · trivial
        · cases literal <;> exact Literal.isScalar_toJson _
      refine ⟨operator, ?_, isCondition⟩
      rw [readOperator_of_isScalar key remainsScalar, ← sameValue, described]
      rfl
  | @descriptor name operand fits =>
      rcases Operator.exists_isTemplate field.sqlName fits with ⟨part, literals, operators⟩
      refine ⟨part, isTemplate_of_operator fieldRead ?_ ?_⟩
      · simp [literals, Filter.entryLiterals]
      · intro replace
        rcases operators replace with ⟨operator, described, isCondition⟩
        refine ⟨operator, ?_, isCondition⟩
        simp [Filter.replaceEntry, readOperator, readDescriptor, described]

/-! ## Templates of objects and groups -/

/-- Templates of the entries of an object, one by one. -/
def AreTemplates (members : List (String × Json)) (parts : List (Condition Literal)) : Prop :=
  List.Forall₂ (fun entry part => IsTemplate entry.1 entry.2 part) members parts

theorem AreTemplates.operands
    {members : List (String × Json)}
    {parts : List (Condition Literal)}
    (templates : AreTemplates members parts) :
    parts.flatMap Condition.operands = Filter.membersLiterals members := by
  induction templates with
  | nil => rfl
  | cons isTemplate following induction =>
      rw [List.flatMap_cons, induction, isTemplate.1]
      rfl

/-- With any replacements, an object becomes its templates filled with them. -/
theorem AreTemplates.exists_conditions
    {members : List (String × Json)}
    {parts : List (Condition Literal)}
    (templates : AreTemplates members parts)
    (replace : Literal → Literal) :
    ∃ criteria,
      ofMembers (Filter.replaceMembers replace members) = .ok criteria ∧
        conditions criteria = .ok (parts.map (fill replace)) := by
  induction templates with
  | nil => exact ⟨[], rfl, rfl⟩
  | @cons entry part rest parts isTemplate following induction =>
      rcases isTemplate.2 replace with ⟨criterion, first, isCondition⟩
      rcases induction with ⟨others, restRead, areConditions⟩
      refine ⟨criterion :: others, ?_, ?_⟩
      · simp [Filter.replaceMembers, ofMembers, first, restRead]
      · simp [conditions, isCondition, areConditions]

/-- A condition over literals is the template of a branch with at least one entry. -/
def IsBranchTemplate (members : List (String × Json)) (part : Condition Literal) : Prop :=
  part.operands = Filter.membersLiterals members ∧
    ∀ replace, ∃ branch,
      ofMembers (Filter.replaceMembers replace members) = .ok branch ∧
        branch ≠ [] ∧ BranchCondition branch (fill replace part)

/-- An object has a template as a branch, if its entries have. -/
theorem AreTemplates.exists_isBranchTemplate
    {members : List (String × Json)}
    (hasEntry : members ≠ [])
    {parts : List (Condition Literal)}
    (templates : AreTemplates members parts) :
    ∃ part, IsBranchTemplate members part := by
  have hasPart : parts ≠ [] := mt (Pointwise.eq_nil_iff templates).mpr hasEntry
  rcases exists_joinBranch hasPart with ⟨part, isJoined⟩
  refine ⟨part, (operands_joinBranch isJoined).trans templates.operands, ?_⟩
  intro replace
  rcases templates.exists_conditions replace with ⟨branch, read, areConditions⟩
  refine ⟨branch, read, ?_, parts.map (fill replace), areConditions, ?_⟩
  · have replacedEntry : Filter.replaceMembers replace members ≠ [] := by
      cases members with
      | nil => exact absurd rfl hasEntry
      | cons entry rest => simp [Filter.replaceMembers]
    exact mt (eq_nil_iff_of_ofMembers read).mp replacedEntry
  · rw [joinBranch_fill, isJoined]
    rfl

theorem operands_of_branchTemplates
    {objects : List (List (String × Json))}
    {parts : List (Condition Literal)}
    (each : List.Forall₂ IsBranchTemplate objects parts) :
    parts.flatMap Condition.operands = Filter.branchesLiterals (objects.map .object) := by
  induction each with
  | nil => rfl
  | cons isTemplate following induction =>
      rw [List.flatMap_cons, induction, isTemplate.1]
      rfl

/-- With any replacements, branches become their templates filled with them. -/
theorem exists_branches_of_branchTemplates
    (junction : Junction)
    {objects : List (List (String × Json))}
    {parts : List (Condition Literal)}
    (each : List.Forall₂ IsBranchTemplate objects parts)
    (replace : Literal → Literal) :
    ∃ branches,
      ofBranches junction (Filter.replaceBranches replace (objects.map .object)) =
          .ok branches ∧
        (∀ branch ∈ branches, branch ≠ []) ∧
        List.Forall₂ BranchCondition branches (parts.map (fill replace)) := by
  induction each with
  | nil => exact ⟨[], rfl, by simp, .nil⟩
  | @cons object part objects parts isTemplate following induction =>
      rcases isTemplate.2 replace with ⟨branch, read, nonempty, isCondition⟩
      rcases induction with ⟨others, othersRead, othersNonempty, areConditions⟩
      refine ⟨branch :: others, ?_, ?_, .cons isCondition areConditions⟩
      · simp [Filter.replaceBranches, ofBranches, read, othersRead]
      · exact List.forall_mem_cons.mpr ⟨nonempty, othersNonempty⟩

theorem exists_isTemplate_group
    (junction : Junction)
    {objects : List (List (String × Json))}
    (hasBranch : objects ≠ [])
    {parts : List (Condition Literal)}
    (each : List.Forall₂ IsBranchTemplate objects parts) :
    ∃ part, IsTemplate junction.key (.array (objects.map .object)) part := by
  have hasPart : parts ≠ [] := mt (Pointwise.eq_nil_iff each).mpr hasBranch
  rcases Condition.exists_joinAll? junction hasPart with ⟨joined, isJoined⟩
  refine ⟨.paren joined, ?_, ?_⟩
  · rw [Condition.operands, Condition.operands_joinAll? isJoined,
      operands_of_branchTemplates each]
    rfl
  · intro replace
    rcases exists_branches_of_branchTemplates junction each replace with
      ⟨branches, read, nonempty, areConditions⟩
    have hasConverted : branches ≠ [] := by
      apply mt (Pointwise.eq_nil_iff areConditions).mp
      simpa using hasPart
    have validated :
        (Criterion.group junction branches).validate = .ok (.group junction branches) :=
      (validate_group_eq_ok_iff junction branches _).mpr ⟨hasConverted, nonempty, rfl⟩
    have made := (branchConditions_eq_ok_iff junction branches _).mpr areConditions
    refine ⟨.group junction branches, ?_, ?_⟩
    · apply (ofMember_key_eq_ok_iff junction _ _).mpr
      exact ⟨_, branches, rfl, read, validated⟩
    · simp only [criterionCondition, made, Outcome.ok_bind, joinAll?_fill, isJoined]
      rfl

theorem exists_isTemplate
    {key : String}
    {value : Json}
    (isEntry : Filter.IsEntry key value) :
    ∃ part, IsTemplate key value part := by
  induction isEntry with
  | scalar isField isScalar => exact exists_isTemplate_of_isTest isField (.scalar isScalar)
  | descriptor isField fits => exact exists_isTemplate_of_isTest isField (.descriptor fits)
  | @group junction objects hasBranch hasEntry areEntries induction =>
      have branches : ∀ object ∈ objects, ∃ part, IsBranchTemplate object part := by
        intro object isObject
        rcases Pointwise.exists_related (induction object isObject) with ⟨parts, templates⟩
        exact AreTemplates.exists_isBranchTemplate (hasEntry object isObject) templates
      rcases Pointwise.exists_related branches with ⟨parts, each⟩
      exact exists_isTemplate_group junction hasBranch each

/-! ## Filters -/

/-- An identity is read like the equality that it stands for. -/
theorem ofFilter_identity (id : Int64) :
    ofFilter (.identity id) = ofMembers [(Field.identityName, .integer id.toInt)] := by
  have isIdentity : Field.read Field.identityName = .ok .identity := by
    simp [Field.read, Field.parse]
  have operator :
      Operator.ofDescriptor Comparison.equal.key (.integer id.toInt) =
        .ok (.compare .equal (.integer id)) := by
    have selected : Operator.select? Comparison.equal.key = some (.comparison .equal) := by
      decide
    simp [Operator.ofDescriptor, Operator.readDescriptor, selected, Value.ofJson?,
      Value.ofInt_toInt, Operator.normalize]
  have notGroup : Junction.ofKey? Field.identityName = none := by decide
  simp [ofFilter, ofMembers, ofMember_of_ofKey?_eq_none notGroup, readCondition,
    isIdentity, readOperator, operator]

/-- The objects of accepted filters have templates, and so has the equality of an identity. -/
theorem exists_templates_of_ofFilter
    {filter : Filter}
    {criteria : Criteria}
    (accepted : ofFilter filter = .ok criteria) :
    ∃ members parts,
      AreTemplates members parts ∧
        Filter.membersLiterals members = filter.literals ∧
        ofFilter filter = ofMembers members ∧
        ∀ replace,
          ofFilter (filter.replaceLiterals replace) =
            ofMembers (Filter.replaceMembers replace members) := by
  have ofObject
      {members : List (String × Json)}
      (read : ofMembers members = .ok criteria) :
      ∃ parts, AreTemplates members parts := by
    apply Pointwise.exists_related
    intro entry member
    exact exists_isTemplate ((exists_ofMembers_iff members).mp ⟨criteria, read⟩ entry member)
  cases filter with
  | all => exact ⟨[], [], .nil, rfl, rfl, fun replace => rfl⟩
  | object members =>
      rcases ofObject accepted with ⟨parts, templates⟩
      exact ⟨members, parts, templates, rfl, rfl, fun replace => rfl⟩
  | identity id =>
      have same := ofFilter_identity id
      rcases ofObject (same.symm.trans accepted) with ⟨parts, templates⟩
      refine ⟨_, parts, templates, rfl, same, ?_⟩
      intro replace
      rfl

theorem fragment_fill (template : Option (Condition Literal)) (replace : Literal → Literal) :
    (Restriction.mk (template.map (fill replace))).fragment =
      template.elim "" Condition.text := by
  cases template with
  | none => rfl
  | some part => simp [Restriction.fragment, fill, Condition.text]

theorem parameters_fill (template : Option (Condition Literal)) (replace : Literal → Literal) :
    (Restriction.mk (template.map (fill replace))).parameters =
      (template.elim [] Condition.operands).map fun literal => (replace literal).value := by
  cases template with
  | none => rfl
  | some part => simp [Restriction.parameters, fill]

/-- The template of a filter has its literals, and is filled whatever replaces them. -/
theorem exists_template_of_ofFilter
    {filter : Filter}
    {criteria : Criteria}
    (accepted : ofFilter filter = .ok criteria) :
    ∃ template : Option (Condition Literal),
      template.elim [] Condition.operands = filter.literals ∧
        criteria.restriction = .ok ⟨template.map (fill id)⟩ ∧
        ∀ replace, ∃ replaced,
          ofFilter (filter.replaceLiterals replace) = .ok replaced ∧
            replaced.restriction = .ok ⟨template.map (fill replace)⟩ := by
  rcases
      exists_templates_of_ofFilter accepted with
    ⟨members, parts, templates, literals, same, sameReplaced⟩
  have filled (replace : Literal → Literal) :
      ∃ replaced,
        ofMembers (Filter.replaceMembers replace members) = .ok replaced ∧
          replaced.restriction =
            .ok ⟨(Condition.joinAll? .and parts).map (fill replace)⟩ := by
    rcases templates.exists_conditions replace with ⟨replaced, read, areConditions⟩
    refine ⟨replaced, read, ?_⟩
    rw [restriction, areConditions, Outcome.ok_bind, joinAll?_fill]
  refine ⟨Condition.joinAll? .and parts, ?_, ?_, ?_⟩
  · rw [← literals, ← templates.operands]
    cases isJoined : Condition.joinAll? .and parts with
    | none =>
        have noParts := (Condition.joinAll?_eq_none_iff .and parts).mp isJoined
        simp [noParts]
    | some joined => exact Condition.operands_joinAll? isJoined
  · rcases filled id with ⟨unchanged, read, isRestriction⟩
    rw [Filter.replaceMembers_id fun entry _ => Filter.replaceEntry_id entry.2, ← same,
      accepted] at read
    cases read
    exact isRestriction
  · intro replace
    rw [sameReplaced replace]
    exact filled replace

/-- A group with a bare value and a set. -/
def sampleFilter : Filter :=
  .object
    [("$or",
      .array
        [.object [("label", .text "Ada")],
          .object [("age", .object [("in-set", .array [.integer 1, .integer 2])])]])]

theorem sampleFilter_accepted :
    ofFilter sampleFilter =
      .ok
        [.group .or
          [[.condition (.column "label") (.compare .equal (.text "Ada"))],
            [.condition (.column "age") (.member false [.integer 1, .integer 2])]]] := by
  have label : Field.parse "label" = .ok (.column "label") := by decide +kernel
  have age : Field.parse "age" = .ok (.column "age") := by decide +kernel
  simp only [sampleFilter, ofFilter, ofMembers, ofMember, ofBranches, readCondition,
    Field.read, label, age]
  rfl

/--
What is compared with never influences the text.

Every text has plain characters only.  When the literals of an accepted filter
are replaced by any others, the filter is still accepted, its text stays the
same, and its parameters are the values of the replacements, in the places of
the values of the literals.
-/
theorem literals_never_reach_fragment :
    (∀ criteria restriction,
        Built criteria →
        criteria.restriction = .ok restriction →
        restriction.fragment.toList.all Condition.isPlain = true) ∧
      ∀ (filter : Filter) (criteria : Criteria) (replace : Literal → Literal),
        ofFilter filter = .ok criteria →
        ∃ original replacedCriteria replaced,
          filter.restriction = .ok original ∧
            ofFilter (filter.replaceLiterals replace) = .ok replacedCriteria ∧
            (filter.replaceLiterals replace).restriction = .ok replaced ∧
            replaced.fragment = original.fragment ∧
            original.parameters = filter.literals.map Literal.value ∧
            replaced.parameters =
              filter.literals.map fun literal => (replace literal).value := by
  constructor
  · intro criteria restriction built isRestriction
    rcases exists_restriction built.wellFormed with ⟨made, isMade, -, represents⟩
    rcases Except.ok.inj (isMade.symm.trans isRestriction) with rfl
    cases isCondition : made.condition with
    | none => simp [Restriction.fragment, isCondition]
    | some condition =>
        have plain := Condition.all_isPlain_write (represents condition isCondition).1
        simpa [Restriction.fragment, isCondition, Condition.text] using plain
  · intro filter criteria replace accepted
    rcases exists_template_of_ofFilter accepted with ⟨template, literals, original, filled⟩
    rcases filled replace with ⟨replacedCriteria, replacedAccepted, replaced⟩
    refine
      ⟨⟨template.map (fill id)⟩, replacedCriteria, ⟨template.map (fill replace)⟩,
        ?_, replacedAccepted, ?_, ?_, ?_, ?_⟩
    · rw [Filter.restriction, accepted, Outcome.ok_bind, original]
    · rw [Filter.restriction, replacedAccepted, Outcome.ok_bind, replaced]
    · rw [fragment_fill, fragment_fill]
    · rw [parameters_fill, literals]
      rfl
    · rw [parameters_fill, literals]

/-- Literals that spell SQL leave the text of the sample as it is. -/
theorem sampleFilter_text_of_hostile_literals :
    ∃ replaced,
      (sampleFilter.replaceLiterals fun _ => .text "? OR 1 = 1 --").restriction =
          .ok replaced ∧
        replaced.fragment = "(label = ? OR age IN (?, ?))" ∧
        replaced.fragment.toList.all Condition.isPlain = true ∧
        replaced.parameters = List.replicate 3 (.text "? OR 1 = 1 --") := by
  rcases
      literals_never_reach_fragment.2 sampleFilter _ (fun _ => .text "? OR 1 = 1 --")
        sampleFilter_accepted with
    ⟨original, criteria, replaced, isOriginal, -, isReplaced, sameText, -, parameters⟩
  rw [Filter.restriction, sampleFilter_accepted, Outcome.ok_bind] at isOriginal
  have plain :=
    literals_never_reach_fragment.1 _ original (.ofFilter sampleFilter_accepted) isOriginal
  have text : original.fragment = "(label = ? OR age IN (?, ?))" := by
    cases isOriginal
    decide
  exact ⟨replaced, isReplaced, sameText.trans text, sameText ▸ plain, parameters⟩

end Criteria

end RecordStore
