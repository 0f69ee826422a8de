import RecordStore.Proofs.Sql.Legible

/-!
# Characters of conditions

The text of a legible condition has few kinds of characters, and a `?` in it
is always a placeholder: names of columns have none, and neither have the
keywords and symbols around them.
-/

namespace RecordStore.Sql.Condition

variable {α : Type}

/-- A character that the text of a condition may have. -/
def isPlain (c : Char) : Bool :=
  c.isAlphanum || ['_', ' ', '?', '=', '<', '>', '(', ')', ','].contains c

theorem isPlain_of_isWord
    {c : Char}
    (isLetter : Lexeme.isWord c = true) :
    isPlain c = true := by
  rcases Bool.or_eq_true_iff.mp isLetter with alphanumeric | underscore
  · simp [isPlain, alphanumeric]
  · simp [isPlain, eq_of_beq underscore]

namespace Lexeme

theorem IsColumn.all_isPlain
    {column : String}
    (isColumn : IsColumn column) :
    column.toList.all isPlain = true := by
  apply List.all_eq_true.mpr
  intro c member
  exact isPlain_of_isWord (List.all_eq_true.mp isColumn.areWord c member)

theorem IsColumn.count_placeholder
    {column : String}
    (isColumn : IsColumn column) :
    column.toList.count '?' = 0 := by
  apply List.count_eq_zero.mpr
  intro member
  exact absurd (List.all_eq_true.mp isColumn.areWord '?' member) (by decide)

end Lexeme

theorem all_isPlain_symbol (comparison : Comparison) :
    comparison.symbol.toList.all isPlain = true := by
  cases comparison <;> decide

theorem all_isPlain_memberKeyword (negated : Bool) :
    (memberKeyword negated).toList.all isPlain = true := by
  cases negated <;> decide

theorem all_isPlain_nullKeyword (negated : Bool) :
    (nullKeyword negated).toList.all isPlain = true := by
  cases negated <;> decide

theorem all_isPlain_placeholders (count : Nat) :
    (placeholders count).all isPlain = true := by
  induction count using placeholders.induct with
  | case1 => rfl
  | case2 => decide
  | case3 count induction =>
      simp only [placeholders, List.all_cons, induction]
      decide

/-- Only plain characters stand in the text of a legible condition. -/
theorem all_isPlain_write
    {precedence : Precedence}
    {condition : Condition α}
    (legible : Legible precedence condition) :
    condition.write.all isPlain = true := by
  have blank : isPlain ' ' = true := by decide
  have mark : isPlain '?' = true := by decide
  have opening : isPlain '(' = true := by decide
  have closing : isPlain ')' = true := by decide
  have conjunction : " AND ".toList.all isPlain = true := by decide
  have disjunction : " OR ".toList.all isPlain = true := by decide
  induction legible with
  | compare isColumn =>
      simp only [write, List.all_append, List.all_cons, List.all_nil,
        isColumn.all_isPlain, all_isPlain_symbol, blank, mark, Bool.and_true]
  | member isColumn hasMember =>
      simp only [write, List.all_append, List.all_cons, List.all_nil,
        isColumn.all_isPlain, all_isPlain_memberKeyword, all_isPlain_placeholders,
        blank, opening, closing, Bool.and_true]
  | isNull isColumn =>
      simp only [write, List.all_append, List.all_cons,
        isColumn.all_isPlain, all_isPlain_nullKeyword, blank, Bool.and_true]
  | paren legible induction =>
      simp only [write, List.all_append, List.all_cons, List.all_nil,
        induction, opening, closing, Bool.and_true]
  | factor legible induction => exact induction
  | and leftLegible rightLegible leftInduction rightInduction =>
      simp only [write, List.all_append, leftInduction, rightInduction,
        conjunction, Bool.and_true]
  | product legible induction => exact induction
  | or leftLegible rightLegible leftInduction rightInduction =>
      simp only [write, List.all_append, leftInduction, rightInduction,
        disjunction, Bool.and_true]

/-! ## Counting placeholders -/

theorem count_placeholders (count : Nat) : (placeholders count).count '?' = count := by
  induction count using placeholders.induct with
  | case1 => rfl
  | case2 => rfl
  | case3 count induction =>
      simp [placeholders, induction]

/-- A legible condition has as many placeholders in its text as it has operands. -/
theorem count_write
    {precedence : Precedence}
    {condition : Condition α}
    (legible : Legible precedence condition) :
    condition.write.count '?' = condition.operands.length := by
  induction legible with
  | @compare column comparison operand isColumn =>
      have symbol : comparison.symbol.toList.count '?' = 0 := by
        cases comparison <;> decide
      simp [write, operands, isColumn.count_placeholder, symbol]
  | @member column negated operands isColumn hasMember =>
      have keyword : (memberKeyword negated).toList.count '?' = 0 := by
        cases negated <;> decide
      simp [write, Condition.operands, isColumn.count_placeholder, keyword,
        count_placeholders]
  | @isNull column negated isColumn =>
      have keyword : (nullKeyword negated).toList.count '?' = 0 := by
        cases negated <;> decide
      simp [write, operands, isColumn.count_placeholder, keyword]
  | paren legible induction => simp [write, operands, induction]
  | factor legible induction => exact induction
  | and leftLegible rightLegible leftInduction rightInduction =>
      simp [write, operands, leftInduction, rightInduction]
  | product legible induction => exact induction
  | or leftLegible rightLegible leftInduction rightInduction =>
      simp [write, operands, leftInduction, rightInduction]

end RecordStore.Sql.Condition
