import RecordStore.Criteria.Basic
import RecordStore.Sql.Condition

/-!
# What criteria mean

Criteria are a test of records in their own right, before any SQL is made of
them.  Given how columns compare with operands and which columns are null,
an operator has an outcome on a column, a conjunction holds when all of its
members do, and a group combines the outcomes of its branches.
-/

namespace RecordStore

open Sql (Interpretation Truth)

namespace Operator

/-- The outcome of applying an operator to a column. -/
def eval (interpretation : Interpretation Value) (column : String) : Operator → Truth
  | compare comparison operand => interpretation.compare column comparison operand
  | member negated members =>
      Truth.negateIf negated
        (Truth.any (members.map (interpretation.compare column .equal)))
  | isNull flag => Truth.negateIf (!flag) (Truth.ofBool (interpretation.isNull column))

end Operator

namespace Junction

/-- The outcome of branches that combine by a junction. -/
def combine : Junction → List Truth → Truth
  | and, outcomes => Truth.all outcomes
  | or, outcomes => Truth.any outcomes

end Junction

namespace Criteria

mutual

/-- The outcome of one criterion. -/
def evalCriterion (interpretation : Interpretation Value) : Criterion → Truth
  | .condition field operator => operator.eval interpretation field.sqlName
  | .group junction branches => junction.combine (evalBranches interpretation branches)

/-- The outcome of criteria: all of their members have to hold. -/
def eval (interpretation : Interpretation Value) : List Criterion → Truth
  | [] => .holds
  | criterion :: rest =>
      (evalCriterion interpretation criterion).and (eval interpretation rest)

/-- The outcomes of the branches of a group. -/
def evalBranches (interpretation : Interpretation Value) :
    List (List Criterion) → List Truth
  | [] => []
  | branch :: rest => eval interpretation branch :: evalBranches interpretation rest

end

end Criteria

end RecordStore
