import RecordStore.Sql.Condition.Reader

/-!
# Legible conditions

A condition is legible when its text says what the tree says: its columns
have names, its sets have members, and every operand of a connective binds at
least as tightly as the connective asks for.  This module splits the text of
a legible condition into its lexemes.  Words are the delicate part, since a
word ends only where the next character belongs to none.
-/

namespace RecordStore.Sql.Condition

variable {α β : Type}

namespace Lexeme

/-- A name that is read as one word, which can name a column. -/
structure IsColumn (column : String) : Prop where
  isName : isName column.toList = true
  areWord : column.toList.all isWord = true

theorem IsColumn.nonempty
    {column : String}
    (isColumn : IsColumn column) :
    column.toList ≠ [] := by
  intro empty
  have named := isColumn.isName
  simp [Lexeme.isName, empty] at named

/-- A character of a word starts a word, or goes on with the next one. -/
theorem read_cons_word
    {c : Char}
    (isLetter : isWord c = true)
    (rest : List Char) :
    read (c :: rest) = (read rest).map (consWord c rest.head?) := by
  rw [read]
  · rw [if_pos isLetter]
  all_goals
    intros
    subst_vars
    simp [isWord] at isLetter

/-- In front of a character that belongs to no word, a character is a word by itself. -/
theorem consWord_separated
    (c : Char)
    {next : Option Char}
    (separated : next.any isWord = false)
    (lexemes : List Lexeme) :
    consWord c next lexemes = word [c] :: lexemes := by
  unfold consWord
  split
  · simp [separated]
  · rfl

/-- Characters of a word that are followed by none are read as that word. -/
theorem read_word
    {letters rest : List Char}
    (nonempty : letters ≠ [])
    (areWord : letters.all isWord = true)
    (separated : rest.head?.any isWord = false) :
    read (letters ++ rest) = (read rest).map (word letters :: ·) := by
  induction letters with
  | nil => exact absurd rfl nonempty
  | cons first letters induction =>
      rcases Bool.and_eq_true_iff.mp areWord with ⟨firstWord, lettersWord⟩
      rw [List.cons_append, read_cons_word firstWord]
      cases letters with
      | nil =>
          have alone : consWord first rest.head? = (word [first] :: ·) := by
            funext lexemes
            exact consWord_separated first separated lexemes
          rw [List.nil_append, alone]
      | cons second letters =>
          have secondWord : isWord second = true := (Bool.and_eq_true_iff.mp lettersWord).1
          have tail := induction (List.cons_ne_nil second letters) lettersWord
          rw [tail, Option.map_map]
          congr 1
          funext lexemes
          simp [consWord, secondWord]

theorem read_keyword
    {name : String}
    (nonempty : name.toList ≠ [])
    (areWord : name.toList.all isWord = true)
    {rest : List Char}
    (separated : rest.head?.any isWord = false) :
    read (' ' :: (name.toList ++ rest)) = (read rest).map (keyword name :: ·) := by
  rw [read, read_word nonempty areWord separated, keyword]

theorem read_symbol (comparison : Comparison) (rest : List Char) :
    read (comparison.symbol.toList ++ ' ' :: rest) =
      (read rest).map (Lexeme.comparison comparison :: ·) := by
  cases comparison <;> simp [Comparison.symbol, read]

end Lexeme

/-! ## Lexemes of conditions -/

open Lexeme (IsColumn keyword)

def memberLexemes : Bool → List Lexeme
  | false => [keyword "IN"]
  | true => [keyword "NOT", keyword "IN"]

def nullLexemes : Bool → List Lexeme
  | false => [keyword "IS", keyword "NULL"]
  | true => [keyword "IS", keyword "NOT", keyword "NULL"]

def placeholderLexemes : Nat → List Lexeme
  | 0 => []
  | 1 => [.placeholder]
  | count + 2 => .placeholder :: .comma :: placeholderLexemes (count + 1)

/-- The lexemes of a condition. -/
def lexemes : Condition α → List Lexeme
  | compare column comparison _ =>
      [.word column.toList, .comparison comparison, .placeholder]
  | member column negated operands =>
      .word column.toList :: memberLexemes negated ++
        .opening :: placeholderLexemes operands.length ++ [.closing]
  | isNull column negated => .word column.toList :: nullLexemes negated
  | and left right => left.lexemes ++ keyword Junction.and.keyword :: right.lexemes
  | or left right => left.lexemes ++ keyword Junction.or.keyword :: right.lexemes
  | paren inner => .opening :: inner.lexemes ++ [.closing]

theorem lexemes_length_pos (condition : Condition α) :
    0 < condition.lexemes.length := by
  have nonempty : condition.lexemes ≠ [] := by
    cases condition <;> simp [lexemes]
  exact List.length_pos_iff.mpr nonempty

/-- How tightly a condition binds. -/
inductive Precedence where
  | factor
  | product
  | sum
  deriving DecidableEq, Repr

/-- The text of a condition can be read as the condition where its precedence is asked for. -/
inductive Legible : Precedence → Condition α → Prop where
  | compare
      {column : String}
      {comparison : Comparison}
      {operand : α}
      (isColumn : IsColumn column) :
      Legible .factor (compare column comparison operand)
  | member
      {column : String}
      {negated : Bool}
      {operands : List α}
      (isColumn : IsColumn column)
      (hasMember : operands ≠ []) :
      Legible .factor (member column negated operands)
  | isNull
      {column : String}
      {negated : Bool}
      (isColumn : IsColumn column) :
      Legible .factor (isNull column negated)
  | paren
      {inner : Condition α}
      (legible : Legible .sum inner) :
      Legible .factor (paren inner)
  | factor
      {condition : Condition α}
      (legible : Legible .factor condition) :
      Legible .product condition
  | and
      {left right : Condition α}
      (leftLegible : Legible .product left)
      (rightLegible : Legible .factor right) :
      Legible .product (and left right)
  | product
      {condition : Condition α}
      (legible : Legible .product condition) :
      Legible .sum condition
  | or
      {left right : Condition α}
      (leftLegible : Legible .sum left)
      (rightLegible : Legible .product right) :
      Legible .sum (or left right)

theorem read_placeholders (count : Nat) (rest : List Char) :
    Lexeme.read (placeholders count ++ rest) =
      (Lexeme.read rest).map (placeholderLexemes count ++ ·) := by
  induction count using placeholders.induct with
  | case1 => simp [placeholders, placeholderLexemes]
  | case2 => simp [placeholders, placeholderLexemes, Lexeme.read]
  | case3 count induction =>
      simp [placeholders, placeholderLexemes, Lexeme.read, induction,
        Function.comp_def]

/-- The keyword of a membership test is read up to what follows it. -/
theorem read_memberKeyword
    (negated : Bool)
    {rest : List Char}
    (separated : rest.head?.any Lexeme.isWord = false) :
    Lexeme.read (' ' :: ((memberKeyword negated).toList ++ rest)) =
      (Lexeme.read rest).map (memberLexemes negated ++ ·) := by
  cases negated with
  | false =>
      have spelled : (memberKeyword false).toList ++ rest = "IN".toList ++ rest := rfl
      rw [spelled, Lexeme.read_keyword (by decide) (by decide) separated]
      rfl
  | true =>
      have spelled :
          (memberKeyword true).toList ++ rest =
            "NOT".toList ++ ' ' :: ("IN".toList ++ rest) := rfl
      rw [spelled,
        Lexeme.read_keyword (by decide) (by decide) rfl,
        Lexeme.read_keyword (by decide) (by decide) separated,
        Option.map_map]
      rfl

/-- The keywords of a null test are read up to what follows them. -/
theorem read_nullKeyword
    (negated : Bool)
    {rest : List Char}
    (separated : rest.head?.any Lexeme.isWord = false) :
    Lexeme.read (' ' :: ((nullKeyword negated).toList ++ rest)) =
      (Lexeme.read rest).map (nullLexemes negated ++ ·) := by
  cases negated with
  | false =>
      have spelled :
          (nullKeyword false).toList ++ rest =
            "IS".toList ++ ' ' :: ("NULL".toList ++ rest) := rfl
      rw [spelled,
        Lexeme.read_keyword (by decide) (by decide) rfl,
        Lexeme.read_keyword (by decide) (by decide) separated,
        Option.map_map]
      rfl
  | true =>
      have spelled :
          (nullKeyword true).toList ++ rest =
            "IS".toList ++ ' ' :: ("NOT".toList ++ ' ' :: ("NULL".toList ++ rest)) := rfl
      rw [spelled,
        Lexeme.read_keyword (by decide) (by decide) rfl,
        Lexeme.read_keyword (by decide) (by decide) rfl,
        Lexeme.read_keyword (by decide) (by decide) separated,
        Option.map_map, Option.map_map]
      rfl

/-- The text of a legible condition splits into its lexemes. -/
theorem read_write
    {precedence : Precedence}
    {condition : Condition α}
    (legible : Legible precedence condition)
    {rest : List Char}
    (separated : rest.head?.any Lexeme.isWord = false) :
    Lexeme.read (condition.write ++ rest) =
      (Lexeme.read rest).map (condition.lexemes ++ ·) := by
  induction legible generalizing rest with
  | @compare column comparison operand isColumn =>
      have spelled :
          (compare column comparison operand).write ++ rest =
            column.toList ++
              ' ' :: (comparison.symbol.toList ++ ' ' :: '?' :: rest) := by
        simp [write]
      rw [spelled, Lexeme.read_word isColumn.nonempty isColumn.areWord rfl,
        Lexeme.read, Lexeme.read_symbol, Lexeme.read, Option.map_map, Option.map_map]
      rfl
  | @member column negated operands isColumn hasMember =>
      have spelled :
          (member column negated operands).write ++ rest =
            column.toList ++
              ' ' :: ((memberKeyword negated).toList ++
                ' ' :: '(' :: (placeholders operands.length ++ ')' :: rest)) := by
        simp [write]
      rw [spelled, Lexeme.read_word isColumn.nonempty isColumn.areWord rfl,
        read_memberKeyword negated rfl, Lexeme.read, Lexeme.read,
        read_placeholders, Lexeme.read]
      simp [lexemes, Function.comp_def]
  | @isNull column negated isColumn =>
      have spelled :
          (isNull column negated : Condition α).write ++ rest =
            column.toList ++ ' ' :: ((nullKeyword negated).toList ++ rest) := by
        simp [write]
      rw [spelled, Lexeme.read_word isColumn.nonempty isColumn.areWord rfl,
        read_nullKeyword negated separated, Option.map_map]
      rfl
  | @paren inner legible induction =>
      have spelled :
          (paren inner).write ++ rest = '(' :: (inner.write ++ ')' :: rest) := by
        simp [write]
      rw [spelled, Lexeme.read, induction rfl, Lexeme.read]
      simp [lexemes, Function.comp_def]
  | factor legible induction => exact induction separated
  | @and left right leftLegible rightLegible leftInduction rightInduction =>
      have spelled :
          (and left right).write ++ rest =
            left.write ++
              ' ' :: (Junction.and.keyword.toList ++ ' ' :: (right.write ++ rest)) := by
        simp [write, Junction.keyword]
      rw [spelled, leftInduction rfl,
        Lexeme.read_keyword (by decide) (by decide) rfl,
        Lexeme.read, rightInduction separated]
      simp [lexemes, Function.comp_def]
  | product legible induction => exact induction separated
  | @or left right leftLegible rightLegible leftInduction rightInduction =>
      have spelled :
          (or left right).write ++ rest =
            left.write ++
              ' ' :: (Junction.or.keyword.toList ++ ' ' :: (right.write ++ rest)) := by
        simp [write, Junction.keyword]
      rw [spelled, leftInduction rfl,
        Lexeme.read_keyword (by decide) (by decide) rfl,
        Lexeme.read, rightInduction separated]
      simp [lexemes, Function.comp_def]

end RecordStore.Sql.Condition
