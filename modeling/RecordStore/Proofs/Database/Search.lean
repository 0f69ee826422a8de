import RecordStore.Proofs.Database.Plan
import RecordStore.Proofs.Operator
import RecordStore.Proofs.Sql.Truth

/-!
# No plan overlooks a row

Whatever way of finding rows is taken, all the terms of its condition hold of
the rows that are wanted, and what the search starts from is one of the terms.
So each row of which the condition holds is found.  The least whole number of
all is left out here: as an id it could be written as a double, which a
comparison takes for the number and a search does not.

Main statement: `Table.finds_eq_selects`.
-/

namespace RecordStore

open Sql (Condition Truth)

/-! ## Ids as operands -/

/-- A double that is a whole number of the size of an id is finite. -/
theorem Double.isFinite_of_units
    {number : Double}
    {id : Int64}
    (same : number.units = id.toInt * unitsPerOne) :
    number.isFinite = true := by
  apply Bool.of_not_eq_false
  intro infinite
  have exponent : 2047 ≤ number.exponentField := by
    simpa [isFinite] using infinite
  -- The exponent gets a name, so that nothing works the great power out.
  have isPower : ∃ little, unitsPerOne = Nat.pow 2 little ∧ little = 1074 := by
    unfold unitsPerOne
    exact ⟨_, rfl, rfl⟩
  rcases isPower with ⟨little, isOne, isLittle⟩
  have large : 2 ^ 52 * 2 ^ number.scale ≤ number.magnitude := by
    rw [magnitude, significand, if_neg (by omega)]
    exact Nat.mul_le_mul_right _ (Nat.le_add_right _ _)
  have small : number.magnitude ≤ 2 ^ 63 * 2 ^ little := by
    have absolute : number.units.natAbs = number.magnitude := by
      rw [units]
      split <;> simp
    have bounded : id.toInt.natAbs ≤ 2 ^ 63 := by
      have lower := id.le_toInt
      have upper := id.toInt_lt
      omega
    rw [← absolute, same, Int.natAbs_mul, Int.natAbs_natCast, isOne]
    exact Nat.mul_le_mul_right _ bounded
  have apart : 2 ^ 63 * 2 ^ little < 2 ^ 52 * 2 ^ number.scale := by
    rw [← Nat.pow_add, ← Nat.pow_add]
    apply Nat.pow_lt_pow_right (by decide)
    rw [scale]
    omega
  exact absurd (Nat.le_trans large small) (Nat.not_le_of_lt apart)

namespace Affinity

theorem wholeNumber?_of_units
    {id : Int64}
    {cell : Cell}
    {number : Double}
    (isNumeric : numeric cell = .real number)
    (proper : id ≠ Int64.minValue)
    (same : number.units = id.toInt * Double.unitsPerOne) :
    wholeNumber? cell = some id := by
  have nonzero : (Double.unitsPerOne : Int) ≠ 0 :=
    Int.natCast_ne_zero.mpr (Nat.ne_of_gt Double.unitsPerOne_pos)
  have whole : number.units / Double.unitsPerOne = id.toInt := by
    rw [same, Int.mul_ediv_cancel _ nonzero]
  have notLeast : id.toInt ≠ Int64.minValue.toInt := fun least =>
    proper (Int64.toInt_inj.mp least)
  have isWhole :
      (number.isFinite && decide (id.toInt * Double.unitsPerOne = number.units) &&
        Value.fitsWord id.toInt && id.toInt != Int64.minValue.toInt) = true := by
    rw [Double.isFinite_of_units same, decide_eq_true same.symm, Value.fitsWord_toInt,
      bne_iff_ne.mpr notLeast]
    rfl
  rw [wholeNumber?, isNumeric]
  dsimp only
  rw [whole, if_pos isWhole, Int64.ofInt_toInt]

/-- What equals an id stands for the id, but for the least number. -/
theorem wholeNumber?_of_equal
    {id : Int64}
    {cell : Cell}
    (proper : id ≠ Int64.minValue)
    (equal : Comparison.equal.outcome (.integer id) (numeric cell) = .holds) :
    wholeNumber? cell = some id := by
  cases isNumeric : numeric cell with
  | integer number =>
      have decided := Comparison.outcome_equal_integer id number
      rw [isNumeric] at equal
      rw [equal] at decided
      have same : id = number := by simpa using decided.symm
      rw [wholeNumber?, isNumeric, same]
  | real number =>
      rw [isNumeric] at equal
      have ordered := (Truth.ofBool_eq_holds_iff _).mp equal
      simp only [Comparison.admits, Cell.Key.compare, beq_iff_eq,
        Std.LawfulEqCmp.compare_eq_iff_eq] at ordered
      exact wholeNumber?_of_units isNumeric proper ordered.symm
  | null | text | blob =>
      rw [isNumeric] at equal
      contradiction

end Affinity

/-! ## What terms offer -/

/-- A condition holds of a row. -/
def Table.Fulfills (table : Table) (row : Row) (condition : Condition Value) : Prop :=
  condition.eval (table.interpretation row) = .holds

theorem Table.selects_iff (table : Table) (row : Row) (condition : Condition Value) :
    table.selects (some condition) row = true ↔ table.Fulfills row condition := by
  simp [selects, Fulfills]

section Met

variable {table : Table} {row : Row}

/-- What is offered agrees with a row: the row is among those that the offer speaks of. -/
def Offer.Meets (table : Table) (row : Row) : Offer → Prop
  | .equal operand => Plan.addresses row operand = true
  | .oneOf operands => operands.any (Plan.addresses row) = true
  | .either branches => ∃ branch ∈ branches, table.Fulfills row branch
  | _ => True

/-- What is done to find rows leads to a row. -/
def Approach.Meets (table : Table) (row : Row) : Approach → Prop
  | .scan => True
  | .lookup operands => operands.any (Plan.addresses row) = true
  | .branches _ alternatives => ∃ branch ∈ alternatives, table.Fulfills row branch

/-- An id that equals an operand is addressed by it. -/
theorem Plan.addresses_of_equal
    (proper : row.id ≠ Int64.minValue)
    {column : String}
    (named : table.source? column = some .identity)
    {operand : Value}
    (equal : (table.interpretation row).compare column .equal operand = .holds) :
    addresses row operand = true := by
  simp only [Table.interpretation, named] at equal
  rw [addresses, Affinity.wholeNumber?_of_equal proper equal]
  exact beq_self_eq_true _

theorem Plan.any_addresses_of_member
    (proper : row.id ≠ Int64.minValue)
    {column : String}
    (named : table.source? column = some .identity)
    {operands : List Value}
    (isMember : table.Fulfills row (.member column false operands)) :
    operands.any (addresses row) = true := by
  rcases (Truth.any_eq_holds_iff _).mp isMember with ⟨outcome, isOutcome, holds⟩
  rcases List.mem_map.mp isOutcome with ⟨operand, isOperand, rfl⟩
  exact List.any_eq_true.mpr ⟨operand, isOperand, addresses_of_equal proper named holds⟩

/-- A term that holds of a row offers nothing that the row is not among. -/
theorem Offer.meets_ofTerm
    (proper : row.id ≠ Int64.minValue)
    {term : Condition Value}
    (holds : table.Fulfills row term) :
    (ofTerm table term).Meets table row := by
  cases term with
  | compare column comparison operand =>
      rw [ofTerm]
      split
      · next named =>
          cases comparison with
          | equal => exact Plan.addresses_of_equal proper named holds
          | _ => trivial
      · split <;> trivial
      · trivial
  | member column negated operands =>
      rw [ofTerm]
      split
      · next named =>
          cases negated with
          | true => trivial
          | false =>
              have met := Plan.any_addresses_of_member proper named holds
              simp only [Bool.false_eq_true, if_false]
              rw [ofMembers.eq_def]
              split
              · simpa [Meets] using met
              · exact met
      · split <;> trivial
      · trivial
  | isNull column negated =>
      rw [ofTerm]
      split
      · split <;> trivial
      · trivial
  | or left right =>
      rw [Table.Fulfills, Condition.eval, Truth.or_eq_holds_iff, ← Condition.any_disjuncts,
        ← Condition.any_disjuncts, Truth.any_eq_holds_iff, Truth.any_eq_holds_iff] at holds
      rcases holds with ⟨outcome, isOutcome, holds⟩ | ⟨outcome, isOutcome, holds⟩
      · rcases List.mem_map.mp isOutcome with ⟨branch, isBranch, rfl⟩
        exact ⟨branch, List.mem_append_left _ isBranch, holds⟩
      · rcases List.mem_map.mp isOutcome with ⟨branch, isBranch, rfl⟩
        exact ⟨branch, List.mem_append_right _ isBranch, holds⟩
  | and left right => trivial
  | paren inner => trivial

/-! ## What the choice starts from -/

/-- An equation on the row id addresses the rows of which it holds. -/
theorem Table.addresses_of_equation?
    (proper : row.id ≠ Int64.minValue)
    {branch : Condition Value}
    {operand : Value}
    (equates : table.equation? branch = some (.identity, operand))
    (holds : table.Fulfills row branch) :
    Plan.addresses row operand = true := by
  rw [equation?.eq_def] at equates
  split at equates
  · rcases Option.map_eq_some_iff.mp equates with ⟨source, named, same⟩
    cases same
    exact Plan.addresses_of_equal proper named holds
  · rcases Option.map_eq_some_iff.mp equates with ⟨source, named, same⟩
    cases same
    simpa using Plan.any_addresses_of_member proper named holds
  · contradiction

theorem exists_of_mapM_eq_some
    {α β : Type}
    {next : α → Option β}
    {list : List α}
    {results : List β}
    (succeeds : list.mapM next = some results)
    {value : α}
    (member : value ∈ list) :
    ∃ result ∈ results, next value = some result := by
  induction list generalizing results with
  | nil => contradiction
  | cons first rest induction =>
      rw [List.mapM_cons] at succeeds
      rcases Option.bind_eq_some_iff.mp succeeds with ⟨head, isHead, succeeds⟩
      rcases Option.bind_eq_some_iff.mp succeeds with ⟨tail, isTail, isResult⟩
      cases isResult
      rcases List.mem_cons.mp member with rfl | inRest
      · exact ⟨head, List.mem_cons_self, isHead⟩
      · rcases induction isTail inRest with ⟨result, isMember, isResult⟩
        exact ⟨result, List.mem_cons_of_mem head isMember, isResult⟩

/-- When each of some branches equates the row id, one that holds addresses the row. -/
theorem Table.any_addresses_of_alternatives?
    (proper : row.id ≠ Int64.minValue)
    {branches : List (Condition Value)}
    {operands : List Value}
    (equates : table.alternatives? branches = some (.identity, operands))
    (holds : ∃ branch ∈ branches, table.Fulfills row branch) :
    operands.any (Plan.addresses row) = true := by
  rcases holds with ⟨branch, isBranch, holds⟩
  rw [alternatives?] at equates
  split at equates
  · next source operand others equations =>
      split at equates
      · next same =>
          cases equates
          rcases exists_of_mapM_eq_some equations isBranch with ⟨⟨source, found⟩, isFound, equation⟩
          apply List.any_eq_true.mpr
          rcases List.mem_cons.mp isFound with first | later
          · cases first
            exact ⟨operand, List.mem_cons_self, addresses_of_equation? proper equation holds⟩
          · have sameSource : source = .identity := by
              simpa using List.all_eq_true.mp same _ later
            subst sameSource
            exact
              ⟨found, List.mem_cons_of_mem operand (List.mem_map_of_mem later),
                addresses_of_equation? proper equation holds⟩
      · contradiction
  · contradiction

namespace Plan

variable {offers : List Offer}

/-- What searches can start from is not beside a row that the offers agree with. -/
theorem meets_of_mem_handles
    (proper : row.id ≠ Int64.minValue)
    (meet : ∀ offer ∈ offers, offer.Meets table row)
    {handle : Handle}
    (member : handle ∈ handles table offers) :
    handle.offer.Meets table row := by
  have chosen {choose : Offer → Option Offer} {found : Offer × Nat}
      (isNumbered : found ∈ numbered offers choose) :
      ∃ offer ∈ offers, choose offer = some found.1 := by
    rcases List.mem_filterMap.mp isNumbered with ⟨⟨offer, index⟩, isIndexed, isFound⟩
    rcases Option.map_eq_some_iff.mp isFound with ⟨result, isResult, rfl⟩
    exact ⟨offer, List.fst_mem_of_mem_zipIdx isIndexed, isResult⟩
  rcases List.mem_map.mp member with ⟨⟨found, index⟩, isFound, rfl⟩
  rcases List.mem_append.mp isFound with isSingle | isJoined
  · rcases chosen isSingle with ⟨offer, isOffer, restricts⟩
    have met := meet offer isOffer
    cases offer with
    | equal | oneOf | lower | upper =>
        cases restricts
        exact met
    | _ => contradiction
  · rcases chosen isJoined with ⟨offer, isOffer, joins⟩
    have met := meet offer isOffer
    rw [joined?.eq_def] at joins
    split at joins
    · split at joins
      · next equates =>
          cases joins
          exact Table.any_addresses_of_alternatives? proper equates met
      · contradiction
    · contradiction

theorem meets_of_mem_candidatesOf
    (handles : List Handle)
    {handle : Handle}
    (meets : handle.offer.Meets table row)
    {candidate : Candidate}
    (member : candidate ∈ candidatesOf handles handle) :
    candidate.approach.Meets table row := by
  rcases handle with ⟨offer, term⟩
  cases offer with
  | equal operand =>
      cases List.mem_singleton.mp member
      simpa [Approach.Meets, Offer.Meets] using meets
  | oneOf operands =>
      cases List.mem_singleton.mp member
      exact meets
  | lower =>
      rcases List.mem_cons.mp member with rfl | isBoth
      · trivial
      · rcases Option.map_eq_some_iff.mp (Option.mem_toList.mp isBoth) with ⟨other, _, rfl⟩
        trivial
  | upper =>
      cases List.mem_singleton.mp member
      trivial
  | plain | present | either | test | constant => contradiction

theorem best_mem (first : Candidate) (others : List Candidate) :
    best first others ∈ first :: others := by
  induction others generalizing first with
  | nil => exact List.mem_singleton_self first
  | cons next rest induction =>
      rw [best, List.foldl_cons]
      have chosen := induction (if next.estimate.isBetter first.estimate then next else first)
      rcases List.mem_cons.mp chosen with isFirst | isLater
      · rw [best] at isFirst
        rw [isFirst]
        split
        · exact List.mem_cons_of_mem first List.mem_cons_self
        · exact List.mem_cons_self
      · exact List.mem_cons_of_mem first (List.mem_cons_of_mem next isLater)

/-- What is chosen leads to every row that the offers agree with. -/
theorem meets_choose
    (proper : row.id ≠ Int64.minValue)
    (meet : ∀ offer ∈ offers, offer.Meets table row)
    (depth : Nat) :
    (choose table depth offers).approach.Meets table row := by
  rw [choose]
  rcases List.mem_cons.mp (best_mem _ _) with isScan | isOther
  · rw [isScan]
    trivial
  · rcases List.mem_append.mp isOther with isSimple | isBranched
    · rcases List.mem_map.mp isSimple with ⟨candidate, isCandidate, adjusted⟩
      rcases List.mem_flatMap.mp isCandidate with ⟨handle, isHandle, isCandidate⟩
      have met :=
        meets_of_mem_candidatesOf _ (meets_of_mem_handles proper meet isHandle) isCandidate
      -- Adjusting changes the estimate alone.
      rw [← adjusted]
      exact met
    · rcases List.mem_filterMap.mp isBranched with ⟨⟨offer, index⟩, isIndexed, isFound⟩
      have isOffer : offer ∈ offers := List.fst_mem_of_mem_zipIdx isIndexed
      have met := meet offer isOffer
      dsimp only at isFound
      split at isFound
      · rcases Option.map_eq_some_iff.mp isFound with ⟨_, _, isCandidate⟩
        rw [← isCandidate]
        exact met
      · contradiction

/-! ## Plans -/

theorem mem_of_firstEqual?_eq_some
    {operand : Value}
    (settles : firstEqual? offers = some operand) :
    .equal operand ∈ offers := by
  rcases List.exists_of_findSome?_eq_some settles with ⟨offer, isOffer, isEqual⟩
  split at isEqual
  · cases isEqual
    exact isOffer
  · contradiction

theorem mem_of_mem_companions
    {terms : List (Condition Value)}
    {index : Nat}
    {term : Condition Value}
    (member : term ∈ companions terms offers index) :
    term ∈ terms := by
  rcases List.mem_filterMap.mp member with ⟨⟨⟨other, offer⟩, place⟩, isIndexed, isTerm⟩
  have isPair : (other, offer) ∈ terms.zip offers := List.fst_mem_of_mem_zipIdx isIndexed
  dsimp only at isTerm
  split at isTerm
  · cases isTerm
    exact (List.of_mem_zip isPair).1
  · contradiction

theorem finds_branches
    (branches : List (Condition Value))
    (planOf : Condition Value → Plan) :
    (branches.foldr (fun branch rest => Plan.branch branch (planOf branch) rest)
        Plan.nothing).finds table row =
      branches.any fun branch =>
        table.selects (some branch) row && (planOf branch).finds table row := by
  induction branches with
  | nil => rfl
  | cons branch rest induction => rw [List.foldr_cons, finds, induction, List.any_cons]

/-- The plan for terms finds the rows of which they all hold. -/
theorem finds_ofTerms
    (proper : row.id ≠ Int64.minValue)
    (isStatement : Bool)
    (depth : Nat)
    {terms : List (Condition Value)}
    (hold : ∀ term ∈ terms, table.Fulfills row term) :
    (ofTerms table isStatement depth terms).finds table row = true := by
  induction depth generalizing isStatement terms with
  | zero => rfl
  | succ depth induction =>
      have meet : ∀ offer ∈ terms.map (Offer.ofTerm table), offer.Meets table row := by
        intro offer isOffer
        rcases List.mem_map.mp isOffer with ⟨term, isTerm, rfl⟩
        exact Offer.meets_ofTerm proper (hold term isTerm)
      have chosen := meets_choose proper meet depth
      rw [ofTerms]
      dsimp only
      split
      · next operand settles =>
          have isFirst : firstEqual? (terms.map (Offer.ofTerm table)) = some operand := by
            split at settles
            · exact settles
            · contradiction
          simpa [finds, Offer.Meets] using meet _ (mem_of_firstEqual?_eq_some isFirst)
      · split
        · rfl
        · next operands approach =>
            rw [approach] at chosen
            exact chosen
        · next index branches approach =>
            rw [approach] at chosen
            rcases chosen with ⟨branch, isBranch, holds⟩
            rw [finds_branches, List.any_eq_true]
            refine ⟨branch, isBranch, ?_⟩
            rw [(table.selects_iff row branch).mpr holds, Bool.true_and]
            refine induction false fun term isTerm => ?_
            rcases List.mem_append.mp isTerm with isConjunct | isCompanion
            · have conjuncts := (Condition.all_conjuncts _ branch).trans holds
              exact (Truth.all_eq_holds_iff _).mp conjuncts _ (List.mem_map_of_mem isConjunct)
            · exact hold term (mem_of_mem_companions isCompanion)

end Plan

/--
A row is found if the condition holds of it, unless its id is the least number
of all: however a statement goes through a table, it overlooks nothing.
-/
theorem Table.finds_eq_selects
    (proper : row.id ≠ Int64.minValue)
    (condition : Option (Condition Value)) :
    table.finds condition row = table.selects condition row := by
  rw [finds]
  cases selected : table.selects condition row with
  | false => rfl
  | true =>
      cases condition with
      | none => rfl
      | some condition =>
          have holds := (table.selects_iff row condition).mp selected
          have terms := (Condition.all_conjuncts _ condition).trans holds
          rw [Plan.ofCondition, Plan.finds_ofTerms proper true _ fun term isTerm =>
            (Truth.all_eq_holds_iff _).mp terms _ (List.mem_map_of_mem isTerm)]
          rfl

end Met

end RecordStore
