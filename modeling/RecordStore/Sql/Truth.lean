/-!
# Truth with an unknown

Conditions on rows that hold nulls are neither true nor false.  The
connectives treat the unknown as a truth value not known yet: they answer
true or false exactly when either answer would come out the same.
-/

namespace RecordStore.Sql

/-- The outcome of a condition. -/
inductive Truth where
  | holds
  | fails
  | unknown
  deriving DecidableEq, Repr

namespace Truth

/-- The outcome of a test that is never unknown. -/
def ofBool (test : Bool) : Truth :=
  if test then holds else fails

/-- The negation. -/
def not : Truth → Truth
  | holds => fails
  | fails => holds
  | unknown => unknown

/-- The conjunction. -/
def and : Truth → Truth → Truth
  | fails, _ => fails
  | _, fails => fails
  | holds, holds => holds
  | _, _ => unknown

/-- The disjunction. -/
def or : Truth → Truth → Truth
  | holds, _ => holds
  | _, holds => holds
  | fails, fails => fails
  | _, _ => unknown

/-- The conjunction of a list. -/
def all (outcomes : List Truth) : Truth :=
  outcomes.foldr and holds

/-- The disjunction of a list. -/
def any (outcomes : List Truth) : Truth :=
  outcomes.foldr or fails

/-- The negation of an outcome, if it is to be negated. -/
def negateIf (negated : Bool) (outcome : Truth) : Truth :=
  if negated then outcome.not else outcome

@[simp]
theorem holds_and (outcome : Truth) : and holds outcome = outcome := by
  cases outcome <;> rfl

@[simp]
theorem and_holds (outcome : Truth) : and outcome holds = outcome := by
  cases outcome <;> rfl

@[simp]
theorem fails_or (outcome : Truth) : or fails outcome = outcome := by
  cases outcome <;> rfl

@[simp]
theorem or_fails (outcome : Truth) : or outcome fails = outcome := by
  cases outcome <;> rfl

theorem and_comm (left right : Truth) : and left right = and right left := by
  cases left <;> cases right <;> rfl

theorem or_comm (left right : Truth) : or left right = or right left := by
  cases left <;> cases right <;> rfl

theorem and_assoc (first second third : Truth) :
    and (and first second) third = and first (and second third) := by
  cases first <;> cases second <;> cases third <;> rfl

theorem or_assoc (first second third : Truth) :
    or (or first second) third = or first (or second third) := by
  cases first <;> cases second <;> cases third <;> rfl

end Truth

end RecordStore.Sql
