import RecordStore.Database.Plan.Basic
import RecordStore.Database.Plan.Estimate
import RecordStore.Sql.Condition.Terms

/-!
# Choosing a plan

The condition of a statement offers ways of finding its rows.  An equation
on the row id leads to a single row, and is taken whenever there is one.
Else the cheapest way is taken, by rough estimates: going through all rows,
looking up the ids in a list, going through the ids on one side of a bound
or between two, or going through the branches of a disjunction one after the
other, each of them in its own cheapest way.

The estimates know nothing of the table, so that a plan depends on the
condition alone.
-/

namespace RecordStore

open Sql (Condition)

/-- What a term of a condition offers to a search. -/
inductive Offer where
  | equal (operand : Value)
  | oneOf (operands : List Value)
  | lower
  | upper
  | plain (isEquation : Bool)
  | present
  | either (branches : List (Condition Value))
  | test
  | constant
  deriving DecidableEq, Repr

namespace Offer

/-- What a comparison with the row id offers. -/
def ofComparison (operand : Value) : Comparison → Offer
  | .equal => equal operand
  | .notEqual => test
  | .greater => lower
  | .greaterOrEqual => lower
  | .less => upper
  | .lessOrEqual => upper

/-- What looking for the row id among operands offers. -/
def ofMembers : List Value → Offer
  | [only] => equal only
  | operands => oneOf operands

/-- What a term offers. -/
def ofTerm (table : Table) : Condition Value → Offer
  | .compare column comparison operand =>
      match table.source? column with
      | some .identity => ofComparison operand comparison
      | some (.column _) =>
          if comparison = .notEqual then test else .plain (comparison == .equal)
      | _ => constant
  | .member column negated operands =>
      match table.source? column with
      | some .identity => if negated then test else ofMembers operands
      | some (.column _) => if negated then test else .plain (operands.length == 1)
      | _ => constant
  | .isNull column negated =>
      match table.source? column with
      | some (.column _) => if negated then present else .plain false
      | _ => constant
  | .or left right => either (left.disjuncts ++ right.disjuncts)
  | .and _ _ => test
  | .paren _ => test

/-- The term restricts what is searched for, so that it may take part in a narrower search. -/
def isRestriction : Offer → Bool
  | present => false
  | test => false
  | constant => false
  | _ => true

/-- The term restricts a column of the table, the row id included. -/
def isIndexable : Offer → Bool
  | either _ => false
  | test => false
  | constant => false
  | _ => true

/-- The term is an equation. -/
def isEquation : Offer → Bool
  | equal _ => true
  | plain isEquation => isEquation
  | _ => false

end Offer

/-- The column that a condition equates with an operand, and the operand. -/
def Table.equation? (table : Table) : Condition Value → Option (Source × Value)
  | .compare column .equal operand =>
      (table.source? column).map fun source => (source, operand)
  | .member column false [operand] =>
      (table.source? column).map fun source => (source, operand)
  | _ => none

/-- The column that each of some branches equates with an operand, and the operands. -/
def Table.alternatives? (table : Table) (branches : List (Condition Value)) :
    Option (Source × List Value) :=
  match branches.mapM table.equation? with
  | some ((source, operand) :: others) =>
      if others.all fun other => other.1 == source then
        some (source, operand :: others.map Prod.snd)
      else
        none
  | _ => none

/-- A restriction of the row id that a search can start from. -/
structure Handle where
  offer : Offer
  term : Option Nat
  deriving DecidableEq, Repr

/-- What is done to find rows, before it is worked out for the branches of a disjunction. -/
inductive Approach where
  | scan
  | lookup (operands : List Value)
  | branches (term : Nat) (branches : List (Condition Value))
  deriving DecidableEq, Repr

/-- A way of finding rows that could be taken. -/
structure Candidate where
  approach : Approach
  used : List Nat
  estimate : Estimate
  deriving DecidableEq, Repr

namespace Plan

/-- The terms that offer something, with their indices. -/
def numbered {α : Type} (offers : List Offer) (choose : Offer → Option α) : List (α × Nat) :=
  offers.zipIdx.filterMap fun offer => (choose offer.1).map fun chosen => (chosen, offer.2)

/-- The restriction of the row id in an offer. -/
def restriction? : Offer → Option Offer
  | .equal operand => some (.equal operand)
  | .oneOf operands => some (.oneOf operands)
  | .lower => some .lower
  | .upper => some .upper
  | _ => none

/-- The ids among which branches look for the row id, if each of them does nothing else. -/
def joined? (table : Table) : Offer → Option Offer
  | .either branches =>
      match table.alternatives? branches with
      | some (.identity, operands) => some (.oneOf operands)
      | _ => none
  | _ => none

/-- The handles that offers give: those of single terms first, then those of disjunctions. -/
def handles (table : Table) (offers : List Offer) : List Handle :=
  (numbered offers restriction? ++ numbered offers (joined? table)).map fun found =>
    ⟨found.1, some found.2⟩

/-- The candidates that start from a handle; there may be another for the other side. -/
def candidatesOf (handles : List Handle) (handle : Handle) : List Candidate :=
  let used := handle.term.toList
  match handle.offer with
  | .equal operand => [⟨.lookup [operand], used, .single⟩]
  | .oneOf operands => [⟨.lookup operands, used, .several operands.length⟩]
  | .lower =>
      let both :=
        (handles.find? fun other => other.offer == .upper).map fun other =>
          (⟨.scan, used ++ other.term.toList, .twoSided⟩ : Candidate)
      ⟨.scan, used, .oneSided⟩ :: both.toList
  | .upper => [⟨.scan, used, .oneSided⟩]
  | _ => []

/-- A candidate whose estimate takes the terms into account that it does not use. -/
def adjust (offers : List Offer) (candidate : Candidate) : Candidate :=
  let unused :=
    (offers.zipIdx.filter fun offer =>
      offer.1 != .constant && !candidate.used.contains offer.2).map Prod.fst
  { candidate with
    estimate := candidate.estimate.reduce unused.length (unused.any Offer.isEquation) }

/-- The candidates that handles give. -/
def simpleCandidates (offers : List Offer) (handles : List Handle) : List Candidate :=
  (handles.flatMap (candidatesOf handles)).map (adjust offers)

/-- A branch of a disjunction may be searched for: some term of it restricts a column. -/
def isSearchable (table : Table) (branch : Condition Value) : Bool :=
  branch.conjuncts.any fun term =>
    match Offer.ofTerm table term with
    | .either branches =>
        match table.alternatives? branches with
        | some (.constant _, _) => false
        | found => found.isSome
    | offer => offer.isIndexable

/-- The estimate for branches one after the other, by an estimate for the terms of each. -/
def branchesEstimate?
    (table : Table)
    (estimate : List (Condition Value) → Option Estimate)
    (branches : List (Condition Value)) :
    Option Estimate :=
  if branches.all (isSearchable table) then
    (branches.mapM fun branch => estimate branch.conjuncts).bind Estimate.addAll
  else
    none

/-- The candidates that go through the branches of a term. -/
def branchCandidates
    (table : Table)
    (estimate : List (Condition Value) → Option Estimate)
    (offers : List Offer) :
    List Candidate :=
  offers.zipIdx.filterMap fun offer =>
    match offer.1 with
    | .either branches =>
        (branchesEstimate? table estimate branches).map fun total =>
          ⟨.branches offer.2 branches, [offer.2], total⟩
    | _ => none

/--
The estimate for the terms of a branch, which may start from handles of the
conditions around it too; without any handle there is none.  `depth` bounds
how deep disjunctions nest.
-/
def branchEstimate? (table : Table) :
    Nat → List Handle → List (Condition Value) → Option Estimate
  | 0, _, _ => none
  | depth + 1, around, terms =>
      let offers := terms.map (Offer.ofTerm table)
      let handles := handles table offers ++ around
      let outer := handles.map fun handle => { handle with term := none }
      let candidates :=
        simpleCandidates offers handles ++
          branchCandidates table (branchEstimate? table depth outer) offers
      (candidates.map Candidate.estimate).foldl Estimate.lower none

/-- The best candidate, the first of those that are equally good. -/
def best (first : Candidate) (others : List Candidate) : Candidate :=
  others.foldl
    (fun known next => if next.estimate.isBetter known.estimate then next else known) first

/-- The operand of the first equation on the row id. -/
def firstEqual? (offers : List Offer) : Option Value :=
  offers.findSome? fun offer =>
    match offer with
    | .equal operand => some operand
    | _ => none

/-- The terms that go into the search for each branch of the term at an index. -/
def companions (terms : List (Condition Value)) (offers : List Offer) (index : Nat) :
    List (Condition Value) :=
  (terms.zip offers).zipIdx.filterMap fun term =>
    if term.2 != index && term.1.2.isRestriction then some term.1.1 else none

/-- The candidate that is taken for terms, the equations on the row id aside. -/
def choose
    (table : Table)
    (depth : Nat)
    (offers : List Offer) :
    Candidate :=
  let handles := handles table offers
  let outer := handles.map fun handle => { handle with term := none }
  best (adjust offers ⟨.scan, [], .whole⟩)
    (simpleCandidates offers handles ++
      branchCandidates table (branchEstimate? table depth outer) offers)

/--
The plan for terms.

For the condition of a statement an equation on the row id settles it.  A
branch of a disjunction is searched for together with the other terms.
`depth` bounds how deep disjunctions nest.
-/
def ofTerms (table : Table) (isStatement : Bool) :
    Nat → List (Condition Value) → Plan
  | 0, _ => .scan
  | depth + 1, terms =>
      let offers := terms.map (Offer.ofTerm table)
      match if isStatement then firstEqual? offers else none with
      | some operand => .lookup [operand]
      | none =>
          match (choose table depth offers).approach with
          | .scan => .scan
          | .lookup operands => .lookup operands
          | .branches index branches =>
              let others := companions terms offers index
              branches.foldr
                (fun branch rest =>
                  .branch branch (ofTerms table false depth (branch.conjuncts ++ others)) rest)
                .nothing

/-- The plan for the condition of a statement. -/
def ofCondition (table : Table) (condition : Option (Condition Value)) : Plan :=
  match condition with
  | none => .scan
  | some condition => ofTerms table true (condition.size + 1) condition.conjuncts

end Plan

namespace Table

/-- A row is wanted by a statement with a condition, and found by its plan. -/
def finds (table : Table) (condition : Option (Condition Value)) (row : Row) : Bool :=
  table.selects condition row && (Plan.ofCondition table condition).finds table row

/-- The rows that a statement with a condition finds, in the order in which it meets them. -/
def matching (table : Table) (condition : Option (Condition Value)) : List Row :=
  (Plan.ofCondition table condition).visit table (table.rows.filter (table.selects condition))

/-- The rows that a statement with a condition does not find. -/
def others (table : Table) (condition : Option (Condition Value)) : List Row :=
  let plan := Plan.ofCondition table condition
  table.rows.filter fun row => !(table.selects condition row && plan.finds table row)

end Table

end RecordStore
