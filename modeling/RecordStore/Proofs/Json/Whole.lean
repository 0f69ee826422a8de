import RecordStore.Proofs.Json.Number

/-!
# Whole numbers in a text

A text writes a whole number when it consists of digits, with a minus sign
before them unless the number is zero and with blanks on both sides.  These
are the texts that are read as a whole number, provided that it is one of 64
bits: a fraction, an exponent or the sign of a zero makes a double of a number.

Main statement: `read_eq_integer_iff`.
-/

namespace RecordStore.Json

variable {input rest digits : List Char}

/-- A text that writes a whole number; only a number other than zero has a sign. -/
inductive WritesWhole : List Char → Int → Prop where
  | unsigned
      {before digits after : List Char}
      (areBefore : AreSpaces before)
      (isNumeral : IsNumeral digits)
      (areAfter : AreSpaces after) :
      WritesWhole (before ++ digits ++ after) (digitsValue digits)
  | negative
      {before digits after : List Char}
      (areBefore : AreSpaces before)
      (isNumeral : IsNumeral digits)
      (nonzero : digitsValue digits ≠ 0)
      (areAfter : AreSpaces after) :
      WritesWhole (before ++ '-' :: digits ++ after) (-(digitsValue digits))

/-- The first character that is no blank is a digit or a minus sign. -/
def StartsNumber (input : List Char) : Prop :=
  ∃ c rest, skipSpace input = c :: rest ∧ (c = '-' ∨ c.isDigit = true)

/-- The value is a number. -/
def IsNumber : Json → Prop
  | .integer _ | .real _ => True
  | _ => False

/-! ## Parts of a number -/

theorem readDigits_eq_ok (read : readDigits input = .ok (digits, rest)) :
    AreDigits digits ∧ digits ≠ [] ∧ input = digits ++ rest := by
  cases input with
  | nil => contradiction
  | cons c others =>
      rw [readDigits] at read
      split at read
      · next isDigit =>
          cases read
          refine ⟨fun d member => List.mem_takeWhile_imp member, ?_, ?_⟩
          · rw [List.takeWhile_cons_of_pos isDigit]
            exact List.cons_ne_nil _ _
          · exact List.takeWhile_append_dropWhile.symm
      · contradiction

theorem readWhole_eq_ok (read : readWhole input = .ok (digits, rest)) :
    IsNumeral digits ∧ input = digits ++ rest := by
  have isZero : IsNumeral ['0'] := ⟨areDigits_replicate 1, List.cons_ne_nil _ _, .inr rfl⟩
  rw [readWhole.eq_def] at read
  split at read
  · split at read
    · split at read
      · contradiction
      · cases read
        exact ⟨isZero, rfl⟩
    · cases read
      exact ⟨isZero, rfl⟩
  · next notZero =>
      rcases readDigits_eq_ok read with ⟨areDigits, nonempty, rfl⟩
      refine ⟨⟨areDigits, nonempty, .inl ?_⟩, rfl⟩
      cases digits with
      | nil => contradiction
      | cons c others =>
          intro isFirst
          cases isFirst
          exact notZero (others ++ rest) rfl

theorem eq_of_readFraction_none (read : readFraction input = .ok (none, rest)) : rest = input := by
  rw [readFraction.eq_def] at read
  split at read
  · rcases Outcome.bind_eq_ok_iff.mp read with ⟨_, _, isSome⟩
    cases isSome
  · cases read
    rfl

theorem eq_of_readExponent_none (read : readExponent input = .ok (none, rest)) : rest = input := by
  rw [readExponent.eq_def] at read
  split at read
  · split at read
    · split at read <;>
      · rcases Outcome.bind_eq_ok_iff.mp read with ⟨_, _, isSome⟩
        cases isSome
    · cases read
      rfl
  · cases read
    rfl

/-- A number is whole when it has no fraction, no exponent and 64 bits. -/
theorem numberOf_eq_integer
    {negative : Bool}
    {whole : List Char}
    {fraction : Option (List Char)}
    {exponent : Option Int}
    {number : Int}
    (isNumber : numberOf negative whole fraction exponent = .ok (.integer number)) :
    fraction = none ∧ exponent = none ∧ fitsInteger negative (digitsValue whole) = true ∧
      number = if negative then -(digitsValue whole : Int) else digitsValue whole := by
  rw [numberOf] at isNumber
  dsimp only at isNumber
  split at isNumber
  · next isWhole =>
      rw [Bool.and_eq_true, Bool.and_eq_true, Option.isNone_iff_eq_none,
        Option.isNone_iff_eq_none] at isWhole
      cases isNumber
      exact ⟨isWhole.1.1, isWhole.1.2, isWhole.2, rfl⟩
  · split at isNumber
    · cases isNumber
    · contradiction

theorem readNumber_eq_integer
    {number : Int}
    (read : readNumber input = .ok (.integer number, rest)) :
    ∃ negative digits, IsNumeral digits ∧
      input = (if negative then ['-'] else []) ++ digits ++ rest ∧
        fitsInteger negative (digitsValue digits) = true ∧
          number = if negative then -(digitsValue digits : Int) else digitsValue digits := by
  rcases Outcome.bind_eq_ok_iff.mp read with ⟨⟨whole, afterWhole⟩, isWhole, read⟩
  rcases Outcome.bind_eq_ok_iff.mp read with ⟨⟨fraction, afterFraction⟩, isFraction, read⟩
  rcases Outcome.bind_eq_ok_iff.mp read with ⟨⟨exponent, afterExponent⟩, isExponent, read⟩
  rcases Outcome.bind_eq_ok_iff.mp read with ⟨json, isNumber, isRest⟩
  cases isRest
  rcases numberOf_eq_integer isNumber with ⟨rfl, rfl, fits, isValue⟩
  cases eq_of_readFraction_none isFraction
  cases eq_of_readExponent_none isExponent
  rcases readWhole_eq_ok isWhole with ⟨isNumeral, isUnsigned⟩
  refine ⟨_, whole, isNumeral, ?_, fits, isValue⟩
  rw [List.append_assoc, ← isUnsigned]
  cases input with
  | nil => rfl
  | cons c others =>
      by_cases isMinus : c = '-'
      · subst isMinus
        rfl
      · simp [isMinus]

/-! ## Numbers and other values -/

theorem isNumber_of_numberOf
    {negative : Bool}
    {whole : List Char}
    {fraction : Option (List Char)}
    {exponent : Option Int}
    {json : Json}
    (isNumber : numberOf negative whole fraction exponent = .ok json) :
    json.IsNumber := by
  rw [numberOf] at isNumber
  dsimp only at isNumber
  split at isNumber
  · cases isNumber
    trivial
  · split at isNumber
    · cases isNumber
      trivial
    · contradiction

/-- What is read is a number exactly when it starts like one. -/
theorem isNumber_iff_of_readValue
    {depth : Nat}
    {json : Json}
    (read : readValue depth input = .ok (json, rest)) :
    json.IsNumber ↔ StartsNumber input := by
  have noNumber {c : Char} {others : List Char} (skipped : skipSpace input = c :: others)
      (apart : c ≠ '-' ∧ c.isDigit = false) : ¬StartsNumber input := by
    rintro ⟨first, _, startsWith, isFirst⟩
    cases skipped.symm.trans startsWith
    rcases isFirst with isMinus | isDigit
    · exact apart.1 isMinus
    · rw [apart.2] at isDigit
      contradiction
  -- A number is what is tried last; whatever is read before starts with another character.
  rw [readValue.eq_def] at read
  dsimp only at read
  split at read
  case h_1 => contradiction
  case h_6 skipped =>
    refine iff_of_false ?_ (noNumber skipped (by decide))
    split at read
    · contradiction
    · split at read
      · cases read
        exact id
      · rcases Outcome.bind_eq_ok_iff.mp read with ⟨_, _, isRest⟩
        cases isRest
        exact id
  case h_7 skipped =>
    refine iff_of_false ?_ (noNumber skipped (by decide))
    split at read
    · contradiction
    · rcases Outcome.bind_eq_ok_iff.mp read with ⟨_, _, isRest⟩
      cases isRest
      exact id
  case h_8 c others _ _ _ _ _ _ skipped =>
    split at read
    · next startsNumber =>
        refine iff_of_true ?_ ⟨c, others, skipped, startsNumber⟩
        rcases Outcome.bind_eq_ok_iff.mp read with ⟨_, _, read⟩
        rcases Outcome.bind_eq_ok_iff.mp read with ⟨_, _, read⟩
        rcases Outcome.bind_eq_ok_iff.mp read with ⟨_, _, read⟩
        rcases Outcome.bind_eq_ok_iff.mp read with ⟨_, isNumber, isRest⟩
        cases isRest
        exact isNumber_of_numberOf isNumber
    · contradiction
  all_goals
    next skipped =>
      refine iff_of_false ?_ (noNumber skipped (by decide))
      rcases Outcome.bind_eq_ok_iff.mp read with ⟨_, _, isRest⟩
      cases isRest
      exact id

/-! ## Whole numbers -/

theorem AreSpaces.endsNumber (areSpaces : AreSpaces input) : EndsNumber input := by
  intro c isFirst
  have isSpace := areSpaces c (List.mem_of_head? isFirst)
  simp only [Json.isSpace, Bool.or_eq_true, beq_iff_eq] at isSpace
  rcases isSpace with ((rfl | rfl) | rfl) | rfl <;> decide

theorem read_eq_ok_iff
    {text : String}
    {json : Json} :
    read text = .ok json ↔
      ∃ rest, readValue maximalDepth text.toList = .ok (json, rest) ∧ AreSpaces rest := by
  constructor
  · intro isRead
    rcases Outcome.bind_eq_ok_iff.mp isRead with ⟨⟨value, rest⟩, isValue, isLast⟩
    dsimp only at isLast
    split at isLast
    · next areSpaces =>
        cases isLast
        exact ⟨rest, isValue, areSpaces_of_skipSpace areSpaces⟩
    · contradiction
  · rintro ⟨rest, isValue, areSpaces⟩
    rw [read, finish, isValue, Outcome.ok_bind]
    dsimp only
    rw [skipSpace_of_areSpaces areSpaces]
    rfl

/-- The blanks before a number are skipped. -/
theorem exists_eq_append_of_skipSpace (input : List Char) :
    ∃ blanks, AreSpaces blanks ∧ input = blanks ++ skipSpace input :=
  ⟨input.takeWhile isSpace, fun _ member => List.mem_takeWhile_imp member,
    List.takeWhile_append_dropWhile.symm⟩

theorem writesWhole_of_read
    {text : String}
    {number : Int}
    (isRead : read text = .ok (.integer number)) :
    WritesWhole text.toList number ∧ -2 ^ 63 ≤ number ∧ number < 2 ^ 64 := by
  rcases read_eq_ok_iff.mp isRead with ⟨rest, isValue, areSpaces⟩
  rcases (isNumber_iff_of_readValue isValue).mp trivial with ⟨c, others, skipped, startsNumber⟩
  rw [readValue_number startsNumber skipped, ← skipped] at isValue
  rcases readNumber_eq_integer isValue with ⟨negative, digits, isNumeral, isText, fits, isNumber⟩
  rcases exists_eq_append_of_skipSpace text.toList with ⟨blanks, areBlanks, isWhole⟩
  rw [isWhole, isText, isNumber, ← List.append_assoc, ← List.append_assoc]
  cases negative with
  | false =>
      simp only [fitsInteger, Nat.pow_eq, Bool.false_eq_true, if_false, decide_eq_true_eq] at fits
      simp only [Bool.false_eq_true, if_false, List.append_nil]
      exact ⟨.unsigned areBlanks isNumeral areSpaces, by omega, by omega⟩
  | true =>
      simp only [fitsInteger, Nat.pow_eq, if_true, Bool.and_eq_true, decide_eq_true_eq] at fits
      simp only [if_true]
      rw [List.append_assoc blanks]
      exact ⟨.negative areBlanks isNumeral fits.1 areSpaces, by omega, by omega⟩

theorem read_numeral
    (negative : Bool)
    {before digits after : List Char}
    (areBefore : AreSpaces before)
    (isNumeral : IsNumeral digits)
    (areAfter : AreSpaces after)
    (fits : fitsInteger negative (digitsValue digits) = true)
    {text : String}
    (isText : text.toList = before ++ (if negative then ['-'] else []) ++ digits ++ after) :
    read text =
      .ok (.integer (if negative then -(digitsValue digits : Int) else digitsValue digits)) := by
  refine read_eq_ok_iff.mpr ⟨after, ?_, areAfter⟩
  have isNumber := areAfter.endsNumber.readNumber_append (readNumber_numeral negative isNumeral fits)
  have starts :
      ∃ c others, (if negative then ['-'] else []) ++ digits ++ after = c :: others ∧
        (c = '-' ∨ c.isDigit = true) := by
    cases negative with
    | true => exact ⟨'-', digits ++ after, rfl, .inl rfl⟩
    | false =>
        cases digits with
        | nil => exact absurd rfl isNumeral.nonempty
        | cons c others =>
            exact ⟨c, others ++ after, rfl, .inr (isNumeral.areDigits c List.mem_cons_self)⟩
  rcases starts with ⟨c, others, isFirst, startsNumber⟩
  have noSpace : isSpace c = false := by
    rcases startsNumber with rfl | isDigit
    · rfl
    · have areDigits : AreDigits [c] := by simpa [AreDigits] using isDigit
      cases isBlank : isSpace c with
      | false => rfl
      | true =>
          have areSpaces : AreSpaces [c] := by simpa [AreSpaces] using isBlank
          rw [areSpaces.endsNumber.isDigit_eq_false] at isDigit
          contradiction
  have skipped : skipSpace text.toList = c :: others := by
    rw [isText, List.append_assoc, List.append_assoc, skipSpace_append_of_areSpaces areBefore,
      ← List.append_assoc, isFirst]
    exact List.dropWhile_cons_of_neg (by simp [noSpace])
  rw [readValue_number startsNumber skipped, ← isFirst, isNumber, List.nil_append]

/-- A text is read as a whole number exactly when it writes one of 64 bits. -/
theorem read_eq_integer_iff
    {text : String}
    {number : Int} :
    read text = .ok (.integer number) ↔
      WritesWhole text.toList number ∧ -2 ^ 63 ≤ number ∧ number < 2 ^ 64 := by
  refine ⟨writesWhole_of_read, ?_⟩
  rintro ⟨writes, large, small⟩
  generalize isText : text.toList = characters at writes
  cases writes with
  | unsigned areBefore isNumeral areAfter =>
      refine read_numeral false areBefore isNumeral areAfter ?_ ?_
      · simp only [fitsInteger, Nat.pow_eq, Bool.false_eq_true, if_false, decide_eq_true_eq]
        omega
      · simpa using isText
  | negative areBefore isNumeral nonzero areAfter =>
      refine read_numeral true areBefore isNumeral areAfter ?_ ?_
      · simp only [fitsInteger, Nat.pow_eq, if_true, Bool.and_eq_true, decide_eq_true_eq]
        omega
      · simpa using isText

end RecordStore.Json
