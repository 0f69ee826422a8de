import RecordStore.Proofs.Sql.Legible

/-!
# Reading conditions back

The text of a legible condition is read as the condition itself, and binding
its operands to the placeholders restores it.  The reader keeps what it has
read so far as an accumulator, so reading a chain of factors is described by
where it arrives: at the reader of further factors, with the chain as the
accumulator.  The main statement is `evalText?_text`: the text of a condition
with its operands as parameters has the outcome of the condition.
-/

namespace RecordStore.Sql.Condition

variable {α : Type}

open Lexeme (IsColumn keyword)

/-- The condition without its operands. -/
def erase (condition : Condition α) : Condition Unit :=
  condition.map fun _ => ()

theorem readMembers_placeholders (count : Nat) (rest : List Lexeme) :
    readMembers (placeholderLexemes (count + 1) ++ .closing :: rest) =
      some (List.replicate (count + 1) (), rest) := by
  induction count with
  | zero => rfl
  | succ count induction =>
      rw [placeholderLexemes, List.cons_append, List.cons_append, readMembers, induction]
      rfl

theorem readTest_member
    (column : String)
    (negated : Bool)
    {operands : List α}
    (hasMember : operands ≠ [])
    (rest : List Lexeme) :
    readTest column
        (memberLexemes negated ++
          .opening :: (placeholderLexemes operands.length ++ .closing :: rest)) =
      some ((member column negated operands).erase, rest) := by
  rcases List.exists_cons_of_ne_nil hasMember with ⟨first, others, rfl⟩
  have members := readMembers_placeholders others.length rest
  cases negated <;>
    simp [memberLexemes, readTest, keyword, members, erase, map, List.replicate_succ,
      List.map_const']

theorem readTest_isNull
    (column : String)
    (negated : Bool)
    (rest : List Lexeme) :
    readTest column (nullLexemes negated ++ rest) =
      some ((isNull column negated : Condition α).erase, rest) := by
  cases negated <;> simp [nullLexemes, readTest, keyword, erase, map]

/-- The name of a column starts the test behind it. -/
theorem readFactor_column
    {column : String}
    (isColumn : IsColumn column)
    (bound : Nat)
    (rest : List Lexeme) :
    readFactor (bound + 1) (.word column.toList :: rest) = readTest column rest := by
  simp [readFactor, isColumn.isName]

/-! ## Reading by precedence -/

/-- No `AND` follows: a product ends here. -/
theorem readProductRest_stop
    {bound : Nat}
    (enough : 0 < bound)
    (left : Condition Unit)
    {rest : List Lexeme}
    (ends : rest.head? ≠ some (keyword Junction.and.keyword)) :
    readProductRest bound left rest = some (left, rest) := by
  rcases Nat.exists_eq_add_one_of_ne_zero (Nat.ne_of_gt enough) with ⟨bound, rfl⟩
  rw [readProductRest, if_neg ends]

/-- No `OR` follows: a sum ends here. -/
theorem readSumRest_stop
    {bound : Nat}
    (enough : 0 < bound)
    (left : Condition Unit)
    {rest : List Lexeme}
    (ends : rest.head? ≠ some (keyword Junction.or.keyword)) :
    readSumRest bound left rest = some (left, rest) := by
  rcases Nat.exists_eq_add_one_of_ne_zero (Nat.ne_of_gt enough) with ⟨bound, rfl⟩
  rw [readSumRest, if_neg ends]

/--
What reading the lexemes of a condition comes to, where its precedence is
asked for and the bound on the reader is large enough.
-/
def ReadBack : Precedence → Condition α → Prop
  | .factor, condition =>
      ∀ bound rest,
        2 * condition.lexemes.length ≤ bound →
        readFactor bound (condition.lexemes ++ rest) = some (condition.erase, rest)
  | .product, condition =>
      ∀ bound rest,
        2 * condition.lexemes.length < bound →
        ∃ remaining, bound ≤ remaining + condition.lexemes.length ∧
          readProduct bound (condition.lexemes ++ rest) =
            readProductRest remaining condition.erase rest
  | .sum, condition =>
      ∀ bound rest,
        2 * condition.lexemes.length + 1 < bound →
        rest.head? ≠ some (keyword Junction.and.keyword) →
        ∃ remaining, bound ≤ remaining + condition.lexemes.length ∧
          readSum bound (condition.lexemes ++ rest) =
            readSumRest remaining condition.erase rest

/-- A product before something other than `AND` is read as a whole. -/
theorem ReadBack.readProduct_eq
    {condition : Condition α}
    (readBack : ReadBack .product condition)
    (bound : Nat)
    (rest : List Lexeme)
    (enough : 2 * condition.lexemes.length < bound)
    (ends : rest.head? ≠ some (keyword Junction.and.keyword)) :
    readProduct bound (condition.lexemes ++ rest) = some (condition.erase, rest) := by
  rcases readBack bound rest enough with ⟨remaining, spent, same⟩
  rw [same]
  exact readProductRest_stop (by omega) condition.erase ends

/-- A sum before something other than `AND` and `OR` is read as a whole. -/
theorem ReadBack.readSum_eq
    {condition : Condition α}
    (readBack : ReadBack .sum condition)
    (bound : Nat)
    (rest : List Lexeme)
    (enough : 2 * condition.lexemes.length + 1 < bound)
    (endsProduct : rest.head? ≠ some (keyword Junction.and.keyword))
    (endsSum : rest.head? ≠ some (keyword Junction.or.keyword)) :
    readSum bound (condition.lexemes ++ rest) = some (condition.erase, rest) := by
  rcases readBack bound rest enough endsProduct with ⟨remaining, spent, same⟩
  rw [same]
  exact readSumRest_stop (by omega) condition.erase endsSum

theorem readBack_paren
    {inner : Condition α}
    (readBack : ReadBack .sum inner) :
    ReadBack .factor (paren inner) := by
  intro bound rest enough
  simp only [lexemes, List.length_append, List.length_cons, List.length_nil] at enough
  rcases Nat.exists_eq_add_one_of_ne_zero (n := bound) (by omega) with ⟨bound, rfl⟩
  have read :=
    readBack.readSum_eq bound (.closing :: rest) (by omega)
      (by simp [keyword]) (by simp [keyword])
  simp [lexemes, readFactor, read, erase, map]

/-- A single factor is a product: one step of the bound is spent on it. -/
theorem readBack_factor
    {condition : Condition α}
    (readBack : ReadBack .factor condition) :
    ReadBack .product condition := by
  intro bound rest enough
  rcases Nat.exists_eq_add_one_of_ne_zero (n := bound) (by omega) with ⟨bound, rfl⟩
  have length := condition.lexemes_length_pos
  refine ⟨bound, by omega, ?_⟩
  simp [readProduct, readBack bound rest (by omega)]

theorem readBack_and
    {left right : Condition α}
    (leftBack : ReadBack .product left)
    (rightBack : ReadBack .factor right) :
    ReadBack .product (and left right) := by
  intro bound rest enough
  simp only [lexemes, List.length_append, List.length_cons] at enough
  rcases
      leftBack bound (keyword Junction.and.keyword :: (right.lexemes ++ rest)) (by omega) with
    ⟨remaining, spent, same⟩
  rcases Nat.exists_eq_add_one_of_ne_zero (n := remaining) (by omega) with ⟨remaining, rfl⟩
  refine ⟨remaining, ?_, ?_⟩
  · simp only [lexemes, List.length_append, List.length_cons]
    omega
  · have read := rightBack remaining rest (by omega)
    rw [lexemes, List.append_assoc, List.cons_append, same, readProductRest]
    simp [read, erase, map]

/-- A single product is a sum: one step of the bound is spent on it. -/
theorem readBack_product
    {condition : Condition α}
    (readBack : ReadBack .product condition) :
    ReadBack .sum condition := by
  intro bound rest enough ends
  rcases Nat.exists_eq_add_one_of_ne_zero (n := bound) (by omega) with ⟨bound, rfl⟩
  have length := condition.lexemes_length_pos
  refine ⟨bound, by omega, ?_⟩
  simp [readSum, readBack.readProduct_eq bound rest (by omega) ends]

theorem readBack_or
    {left right : Condition α}
    (leftBack : ReadBack .sum left)
    (rightBack : ReadBack .product right) :
    ReadBack .sum (or left right) := by
  intro bound rest enough ends
  simp only [lexemes, List.length_append, List.length_cons] at enough
  rcases
      leftBack bound (keyword Junction.or.keyword :: (right.lexemes ++ rest)) (by omega)
        (by simp [keyword, Junction.keyword]) with
    ⟨remaining, spent, same⟩
  rcases Nat.exists_eq_add_one_of_ne_zero (n := remaining) (by omega) with ⟨remaining, rfl⟩
  refine ⟨remaining, ?_, ?_⟩
  · simp only [lexemes, List.length_append, List.length_cons]
    omega
  · have read := rightBack.readProduct_eq remaining rest (by omega) ends
    rw [lexemes, List.append_assoc, List.cons_append, same, readSumRest]
    simp [read, erase, map]

theorem Legible.readBack
    {precedence : Precedence}
    {condition : Condition α}
    (legible : Legible precedence condition) :
    ReadBack precedence condition := by
  induction legible with
  | compare isColumn =>
      intro bound rest enough
      rcases
          Nat.exists_eq_add_one_of_ne_zero (n := bound) (by
            simp [lexemes] at enough
            omega) with
        ⟨bound, rfl⟩
      rw [lexemes, List.cons_append, readFactor_column isColumn]
      rfl
  | member isColumn hasMember =>
      intro bound rest enough
      rcases
          Nat.exists_eq_add_one_of_ne_zero (n := bound) (by
            simp [lexemes] at enough
            omega) with
        ⟨bound, rfl⟩
      simp only [lexemes, List.cons_append, List.append_assoc]
      rw [readFactor_column isColumn]
      exact readTest_member _ _ hasMember rest
  | isNull isColumn =>
      intro bound rest enough
      rcases
          Nat.exists_eq_add_one_of_ne_zero (n := bound) (by
            simp [lexemes] at enough
            omega) with
        ⟨bound, rfl⟩
      rw [lexemes, List.cons_append, readFactor_column isColumn]
      exact readTest_isNull _ _ rest
  | paren legible induction => exact readBack_paren induction
  | factor legible induction => exact readBack_factor induction
  | and leftLegible rightLegible leftInduction rightInduction =>
      exact readBack_and leftInduction rightInduction
  | product legible induction => exact readBack_product induction
  | or leftLegible rightLegible leftInduction rightInduction =>
      exact readBack_or leftInduction rightInduction

/-- The text of a legible condition stands for the condition. -/
theorem read?_text
    {condition : Condition α}
    (legible : Legible .sum condition) :
    read? condition.text = some condition.erase := by
  have split : Lexeme.read condition.text.toList = some condition.lexemes := by
    have written :
        Lexeme.read (condition.write ++ []) =
          (Lexeme.read []).map (condition.lexemes ++ ·) :=
      read_write legible rfl
    simpa [text, Lexeme.read] using written
  have read :
      readSum (4 * condition.lexemes.length + 4) (condition.lexemes ++ []) =
        some (condition.erase, []) :=
    legible.readBack.readSum_eq _ [] (by omega) (by simp) (by simp)
  rw [List.append_nil] at read
  simp [read?, split, read]

/-! ## Binding operands -/

/-- The operands of a condition are taken in the order in which it has them. -/
theorem take?_erase (condition : Condition α) (others : List α) :
    condition.erase.take? (condition.operands ++ others) = some (condition, others) := by
  induction condition generalizing others with
  | compare column comparison operand => rfl
  | member column negated members => simp [erase, map, take?, operands]
  | isNull column negated => rfl
  | and left right leftInduction rightInduction
  | or left right leftInduction rightInduction =>
      simp only [erase] at leftInduction rightInduction
      simp [erase, map, take?, operands, leftInduction, rightInduction]
  | paren inner induction =>
      simp only [erase] at induction
      simp [erase, map, take?, operands, induction]

theorem bind?_erase (condition : Condition α) :
    condition.erase.bind? condition.operands = some condition := by
  have taken := take?_erase condition []
  rw [List.append_nil] at taken
  rw [bind?, taken]

theorem write_ne_nil (condition : Condition α) : condition.write ≠ [] := by
  cases condition <;> simp [write]

/--
The text of a legible condition, with the operands of the condition as the
parameters, has the outcome of the condition.
-/
theorem evalText?_text
    {condition : Condition α}
    (legible : Legible .sum condition)
    (interpretation : Interpretation α) :
    evalText? interpretation condition.text condition.operands =
      some (condition.eval interpretation) := by
  have nonempty : condition.text.isEmpty = false := by
    simp [text, write_ne_nil]
  simp [evalText?, nonempty, read?_text legible, bind?_erase]

end RecordStore.Sql.Condition
