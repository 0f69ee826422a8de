import Mathlib.Data.List.DropRight
import Mathlib.Data.List.TakeWhile
import RecordStore.Criteria.Grammar
import RecordStore.Json.Reader
import RecordStore.Proofs.Outcome

/-!
# Reading pieces of a text

A reader stops where its value ends.  So what it makes of a text it also
makes of the text with more after it, unless a number at the end would go on.
Words, numbers and strings are read alike at every depth.

Main statement: `readValue_append`.
-/

namespace RecordStore.Json

/-- No number goes on with what comes next. -/
def EndsNumber (tail : List Char) : Prop :=
  ∀ c ∈ tail.head?, c.isDigit = false ∧ c ≠ '.' ∧ c ≠ 'e' ∧ c ≠ 'E'

theorem endsNumber_nil : EndsNumber [] := by
  simp [EndsNumber]

theorem endsNumber_comma (rest : List Char) : EndsNumber (',' :: rest) := by
  simp [EndsNumber]

theorem endsNumber_bracket (rest : List Char) : EndsNumber (']' :: rest) := by
  simp [EndsNumber]

theorem endsNumber_brace (rest : List Char) : EndsNumber ('}' :: rest) := by
  simp [EndsNumber]

variable {input tail rest : List Char}

/-! ## Blanks -/

/-- All of the characters may stand between tokens. -/
def AreSpaces (characters : List Char) : Prop :=
  ∀ c ∈ characters, isSpace c = true

theorem skipSpace_of_areSpaces (areSpaces : AreSpaces input) : skipSpace input = [] :=
  List.dropWhile_eq_nil_iff.mpr areSpaces

theorem skipSpace_append_of_areSpaces (areSpaces : AreSpaces input) (tail : List Char) :
    skipSpace (input ++ tail) = skipSpace tail := by
  have skipped : input.dropWhile isSpace = [] := skipSpace_of_areSpaces areSpaces
  rw [skipSpace, List.dropWhile_append, skipped]
  rfl

theorem areSpaces_of_skipSpace (skipped : (skipSpace input).isEmpty = true) : AreSpaces input :=
  List.dropWhile_eq_nil_iff.mp (List.isEmpty_iff.mp skipped)

theorem skipSpace_append_of_cons
    {c : Char}
    (skipped : skipSpace input = c :: rest)
    (tail : List Char) :
    skipSpace (input ++ tail) = c :: (rest ++ tail) := by
  rw [skipSpace] at skipped
  rw [skipSpace, List.dropWhile_append, skipped]
  rfl

theorem skipSpace_skipSpace (input : List Char) : skipSpace (skipSpace input) = skipSpace input :=
  List.dropWhile_idempotent isSpace input

/-! ## Words -/

theorem readWord_append
    {word : List Char}
    (read : readWord word input = .ok rest)
    (tail : List Char) :
    readWord word (input ++ tail) = .ok (rest ++ tail) := by
  induction word generalizing input with
  | nil =>
      cases read
      rfl
  | cons expected word induction =>
      cases input with
      | nil => contradiction
      | cons c input =>
          rw [readWord] at read
          rw [List.cons_append, readWord]
          split at read
          · next same => rw [if_pos same, induction read]
          · contradiction

/-! ## Numbers -/

namespace EndsNumber

theorem isDigit_eq_false
    {c : Char}
    (ends : EndsNumber (c :: rest)) :
    c.isDigit = false :=
  (ends c rfl).1

theorem takeWhile_isDigit_append (ends : EndsNumber tail) (input : List Char) :
    (input ++ tail).takeWhile Char.isDigit = input.takeWhile Char.isDigit := by
  induction input with
  | nil =>
      cases tail with
      | nil => rfl
      | cons c rest => exact List.takeWhile_cons_of_neg (by simp [ends.isDigit_eq_false])
  | cons c input induction => simp only [List.cons_append, List.takeWhile_cons, induction]

theorem dropWhile_isDigit_append (ends : EndsNumber tail) (input : List Char) :
    (input ++ tail).dropWhile Char.isDigit = input.dropWhile Char.isDigit ++ tail := by
  induction input with
  | nil =>
      cases tail with
      | nil => rfl
      | cons c rest => exact List.dropWhile_cons_of_neg (by simp [ends.isDigit_eq_false])
  | cons c input induction =>
      simp only [List.cons_append, List.dropWhile_cons, induction]
      split <;> rfl

variable {digits : List Char}

theorem readDigits_append
    (ends : EndsNumber tail)
    (read : readDigits input = .ok (digits, rest)) :
    readDigits (input ++ tail) = .ok (digits, rest ++ tail) := by
  cases input with
  | nil => contradiction
  | cons c input =>
      rw [readDigits] at read
      split at read
      · next isDigit =>
          cases read
          rw [← ends.takeWhile_isDigit_append, ← ends.dropWhile_isDigit_append, List.cons_append,
            readDigits, if_pos isDigit]
      · contradiction

theorem readWhole_append
    (ends : EndsNumber tail)
    (read : readWhole input = .ok (digits, rest)) :
    readWhole (input ++ tail) = .ok (digits, rest ++ tail) := by
  cases input with
  | nil => contradiction
  | cons first input =>
      by_cases isZero : first = '0'
      · subst isZero
        cases input with
        | nil =>
            cases read
            cases tail with
            | nil => rfl
            | cons c tail => simp [readWhole, ends.isDigit_eq_false]
        | cons c input =>
            simp only [readWhole, List.cons_append] at read ⊢
            split at read
            · contradiction
            · next noDigit =>
                cases read
                rw [if_neg noDigit]
                rfl
      · have notZero (others : List Char) :
            readWhole (first :: others) = readDigits (first :: others) := by
          rw [readWhole]
          rintro _ same
          exact isZero (List.cons.inj same).1
        rw [notZero] at read
        rw [List.cons_append, notZero]
        exact ends.readDigits_append read

theorem readFraction_append
    (ends : EndsNumber tail)
    {fraction : Option (List Char)}
    (read : readFraction input = .ok (fraction, rest)) :
    readFraction (input ++ tail) = .ok (fraction, rest ++ tail) := by
  have noPoint {others : List Char} (other : others.head? ≠ some '.') :
      readFraction others = .ok (none, others) := by
    rw [readFraction]
    rintro _ rfl
    exact other rfl
  cases input with
  | nil =>
      cases read
      exact noPoint fun isPoint => (ends _ isPoint).2.1 rfl
  | cons c input =>
      by_cases isPoint : c = '.'
      · subst isPoint
        rcases Outcome.bind_eq_ok_iff.mp read with ⟨⟨digits, after⟩, readDigits, isRest⟩
        cases isRest
        rw [List.cons_append, readFraction, ends.readDigits_append readDigits]
        rfl
      · have other (others : List Char) : (c :: others).head? ≠ some '.' := by simpa using isPoint
        rw [noPoint (other input)] at read
        cases read
        exact noPoint (other _)

theorem readExponent_of_other
    {input : List Char}
    (other : ∀ c ∈ input.head?, c ≠ 'e' ∧ c ≠ 'E') :
    readExponent input = .ok (none, input) := by
  cases input with
  | nil => rfl
  | cons c rest =>
      rw [readExponent.eq_def]
      exact if_neg (not_or.mpr (other c rfl))

/-- The digits of an exponent, whatever their sign. -/
theorem readSigned_append
    (ends : EndsNumber tail)
    (signed : Nat → Int)
    {exponent : Option Int}
    (read :
      (do
        let (digits, rest) ← readDigits input
        Except.ok (some (signed (digitsValue digits)), rest)) = .ok (exponent, rest)) :
    (do
      let (digits, rest) ← readDigits (input ++ tail)
      Except.ok (some (signed (digitsValue digits)), rest)) = .ok (exponent, rest ++ tail) := by
  rcases Outcome.bind_eq_ok_iff.mp read with ⟨⟨digits, after⟩, readDigits, isRest⟩
  cases isRest
  rw [ends.readDigits_append readDigits]
  rfl

theorem readExponent_append
    (ends : EndsNumber tail)
    {exponent : Option Int}
    (read : readExponent input = .ok (exponent, rest)) :
    readExponent (input ++ tail) = .ok (exponent, rest ++ tail) := by
  by_cases other : ∀ c ∈ input.head?, c ≠ 'e' ∧ c ≠ 'E'
  · rw [readExponent_of_other other] at read
    cases read
    apply readExponent_of_other
    cases input with
    | nil => exact fun c isFirst => (ends c isFirst).2.2
    | cons c input => exact other
  · cases input with
    | nil => exact absurd (by simp) other
    | cons letter input =>
        have isLetter : letter = 'e' ∨ letter = 'E' := by
          by_contra none
          refine other fun c isFirst => ?_
          cases isFirst
          exact not_or.mp none
        cases input with
        | nil => rcases isLetter with rfl | rfl <;> contradiction
        | cons c input =>
            by_cases isMinus : c = '-'
            · subst isMinus
              rw [readExponent.eq_1, if_pos isLetter] at read
              rw [List.cons_append, List.cons_append, readExponent.eq_1, if_pos isLetter]
              exact ends.readSigned_append (fun value => -(value : Int)) read
            · by_cases isPlus : c = '+'
              · subst isPlus
                rw [readExponent.eq_2, if_pos isLetter] at read
                rw [List.cons_append, List.cons_append, readExponent.eq_2, if_pos isLetter]
                exact ends.readSigned_append (fun value => (value : Int)) read
              · have noSign {sign : Char} (other : c ≠ sign) (others : List Char) :
                    ∀ rest, c :: others = sign :: rest → False :=
                  fun _ same => other (List.cons.inj same).1
                rw [readExponent.eq_3 _ _ (noSign isMinus _) (noSign isPlus _),
                  if_pos isLetter] at read
                rw [List.cons_append, List.cons_append,
                  readExponent.eq_3 _ _ (noSign isMinus _) (noSign isPlus _), if_pos isLetter]
                exact ends.readSigned_append (fun value => (value : Int)) read

theorem readNumber_append
    (ends : EndsNumber tail)
    {json : Json}
    (read : readNumber input = .ok (json, rest)) :
    readNumber (input ++ tail) = .ok (json, rest ++ tail) := by
  cases input with
  | nil => contradiction
  | cons first input =>
      have unsigned_append :
          (if ((first :: input) ++ tail).head? == some '-' then ((first :: input) ++ tail).drop 1
            else (first :: input) ++ tail) =
            (if (first :: input).head? == some '-' then (first :: input).drop 1
              else first :: input) ++ tail := by
        by_cases isMinus : first = '-'
        · subst isMinus
          rfl
        · simp [isMinus]
      rcases Outcome.bind_eq_ok_iff.mp read with ⟨⟨whole, afterWhole⟩, readWhole, read⟩
      rcases Outcome.bind_eq_ok_iff.mp read with ⟨⟨fraction, afterFraction⟩, readFraction, read⟩
      rcases Outcome.bind_eq_ok_iff.mp read with ⟨⟨exponent, afterExponent⟩, readExponent, read⟩
      rcases Outcome.bind_eq_ok_iff.mp read with ⟨number, isNumber, isRest⟩
      cases isRest
      rw [readNumber, unsigned_append]
      simp only [ends.readWhole_append readWhole, ends.readFraction_append readFraction,
        ends.readExponent_append readExponent, Outcome.ok_bind]
      rw [List.cons_append, List.head?_cons]
      rw [List.head?_cons] at isNumber
      rw [isNumber]
      rfl

end EndsNumber

/-! ## Strings -/

theorem readCodeUnit_append
    {unit : Nat}
    (read : readCodeUnit input = .ok (unit, rest))
    (tail : List Char) :
    readCodeUnit (input ++ tail) = .ok (unit, rest ++ tail) := by
  match input with
  | a :: b :: c :: d :: others =>
      simp only [readCodeUnit, List.cons_append] at read ⊢
      split at read
      · cases read
        rfl
      · contradiction
  | [] | [_] | [_, _] | [_, _, _] =>
      rw [readCodeUnit] at read
      · split at read <;> contradiction
      · simp

theorem readCharacter_append
    {expected : Char}
    (read : readCharacter expected input = .ok rest)
    (tail : List Char) :
    readCharacter expected (input ++ tail) = .ok (rest ++ tail) := by
  cases input with
  | nil => contradiction
  | cons c input =>
      rw [readCharacter] at read
      rw [List.cons_append, readCharacter]
      split at read
      · next same =>
          cases read
          rw [if_pos same]
      · contradiction

theorem readCodePoint_append
    {character : Char}
    (read : readCodePoint input = .ok (character, rest))
    (tail : List Char) :
    readCodePoint (input ++ tail) = .ok (character, rest ++ tail) := by
  rcases Outcome.bind_eq_ok_iff.mp read with ⟨⟨unit, afterUnit⟩, readUnit, read⟩
  rw [readCodePoint, readCodeUnit_append readUnit, Outcome.ok_bind]
  dsimp only at read ⊢
  split at read
  · contradiction
  · next noClose =>
      rw [if_neg noClose]
      split at read
      · next opens =>
          rw [if_pos opens]
          rcases Outcome.bind_eq_ok_iff.mp read with ⟨afterSlash, readSlash, read⟩
          rcases Outcome.bind_eq_ok_iff.mp read with ⟨afterMark, readMark, read⟩
          rcases Outcome.bind_eq_ok_iff.mp read with ⟨⟨second, afterSecond⟩, readSecond, read⟩
          rw [readCharacter_append readSlash, Outcome.ok_bind, readCharacter_append readMark,
            Outcome.ok_bind, readCodeUnit_append readSecond, Outcome.ok_bind]
          dsimp only at read ⊢
          split at read
          · next closes =>
              rcases Prod.mk.inj (Except.ok.inj read) with ⟨isCharacter, rfl⟩
              rw [if_pos closes, isCharacter]
          · contradiction
      · next single =>
          rcases Prod.mk.inj (Except.ok.inj read) with ⟨isCharacter, rfl⟩
          rw [if_neg single, isCharacter]

theorem readEscape_append
    {character : Char}
    (read : readEscape input = .ok (character, rest))
    (tail : List Char) :
    readEscape (input ++ tail) = .ok (character, rest ++ tail) := by
  rw [readEscape.eq_def] at read
  split at read
  case h_1 => contradiction
  case h_10 => exact readCodePoint_append read tail
  case h_11 => contradiction
  all_goals
    cases read
    rfl

theorem readCharacters_append
    {bound larger : Nat}
    {characters : List Char}
    (enough : bound ≤ larger)
    (read : readCharacters bound input = .ok (characters, rest))
    (tail : List Char) :
    readCharacters larger (input ++ tail) = .ok (characters, rest ++ tail) := by
  induction bound generalizing input characters larger with
  | zero => contradiction
  | succ bound induction =>
      rcases Nat.exists_eq_add_one_of_ne_zero (n := larger) (by omega) with ⟨larger, rfl⟩
      have enough : bound ≤ larger := Nat.le_of_succ_le_succ enough
      cases input with
      | nil => contradiction
      | cons c input =>
          rw [readCharacters] at read
          rw [List.cons_append, readCharacters]
          split at read
          · next isQuote =>
              cases read
              rw [if_pos isQuote]
          · next noQuote =>
              rw [if_neg noQuote]
              split at read
              · next isSlash =>
                  rw [if_pos isSlash]
                  rcases Outcome.bind_eq_ok_iff.mp read with ⟨⟨escaped, afterEscape⟩, isEscape, read⟩
                  rcases Outcome.bind_eq_ok_iff.mp read with ⟨⟨others, afterOthers⟩, areOthers, read⟩
                  cases read
                  rw [readEscape_append isEscape, Outcome.ok_bind]
                  dsimp only
                  rw [induction enough areOthers]
                  rfl
              · next noSlash =>
                  rw [if_neg noSlash]
                  split at read
                  · contradiction
                  · next printable =>
                      rw [if_neg printable]
                      rcases Outcome.bind_eq_ok_iff.mp read with
                        ⟨⟨others, afterOthers⟩, areOthers, read⟩
                      cases read
                      rw [induction enough areOthers]
                      rfl

theorem readText_append
    {content : String}
    (read : readText input = .ok (content, rest))
    (tail : List Char) :
    readText (input ++ tail) = .ok (content, rest ++ tail) := by
  rcases Outcome.bind_eq_ok_iff.mp read with ⟨⟨characters, after⟩, areCharacters, isRest⟩
  cases isRest
  have enough : input.length + 1 ≤ (input ++ tail).length + 1 := by simp
  rw [readText, readCharacters_append enough areCharacters tail]
  rfl

/-! ## Values by their first characters -/

section First

theorem readValue_skipSpace (depth : Nat) (input : List Char) :
    readValue depth (skipSpace input) = readValue depth input := by
  rw [readValue.eq_def, readValue.eq_def]
  simp only [skipSpace_skipSpace]

variable {depth : Nat}

theorem readValue_null (skipped : skipSpace input = 'n' :: rest) :
    readValue depth input =
      (do
        let rest ← readWord ['u', 'l', 'l'] rest
        .ok (.null, rest)) := by
  rw [← readValue_skipSpace, skipped]
  cases depth <;> rfl

theorem readValue_true (skipped : skipSpace input = 't' :: rest) :
    readValue depth input =
      (do
        let rest ← readWord ['r', 'u', 'e'] rest
        .ok (.boolean true, rest)) := by
  rw [← readValue_skipSpace, skipped]
  cases depth <;> rfl

theorem readValue_false (skipped : skipSpace input = 'f' :: rest) :
    readValue depth input =
      (do
        let rest ← readWord ['a', 'l', 's', 'e'] rest
        .ok (.boolean false, rest)) := by
  rw [← readValue_skipSpace, skipped]
  cases depth <;> rfl

theorem readValue_text (skipped : skipSpace input = '"' :: rest) :
    readValue depth input =
      (do
        let (content, rest) ← readText rest
        .ok (.text content, rest)) := by
  rw [← readValue_skipSpace, skipped]
  cases depth <;> rfl

theorem readValue_array
    (skipped : skipSpace input = '[' :: rest)
    (nonempty : ∀ others, skipSpace rest ≠ ']' :: others) :
    readValue (depth + 1) input =
      (do
        let (elements, rest) ←
          readElements (readValue depth) ((skipSpace rest).length + 1) (skipSpace rest)
        .ok (.array elements, rest)) := by
  rw [readValue.eq_def]
  simp only [skipped]

theorem readValue_object (skipped : skipSpace input = '{' :: rest) :
    readValue (depth + 1) input =
      (do
        let (members, rest) ← readObject (fun known name rest => do
          let rest ← readColon rest
          let (value, rest) ← readValue depth rest
          .ok (setMember name value known, rest)) [] rest
        .ok (.object members, rest)) := by
  rw [← readValue_skipSpace, skipped]
  rfl

theorem readColon_cons (input : List Char) : readColon (':' :: input) = .ok input := rfl

theorem readValue_number
    {c : Char}
    (startsNumber : c = '-' ∨ c.isDigit = true)
    (skipped : skipSpace input = c :: rest) :
    readValue depth input = readNumber (c :: rest) := by
  have apart {other : Char} (noNumber : other ≠ '-' ∧ other.isDigit = false) : c ≠ other := by
    rintro rfl
    rcases startsNumber with isMinus | isDigit
    · exact noNumber.1 isMinus
    · rw [noNumber.2] at isDigit
      contradiction
  rw [readValue.eq_def]
  simp only [skipped]
  split
  · contradiction
  all_goals
    next isFirst =>
      cases isFirst
      first
      | exact absurd rfl (apart (by decide))
      | exact if_pos startsNumber

end First

/-- A scalar is read alike at every depth, and whatever follows it. -/
theorem readValue_append
    {depth : Nat}
    {json : Json}
    (read : readValue depth input = .ok (json, rest))
    (isScalar : json.IsScalar)
    (ends : EndsNumber tail)
    (other : Nat) :
    readValue other (input ++ tail) = .ok (json, rest ++ tail) := by
  rw [readValue.eq_def] at read
  dsimp only at read
  split at read
  case h_1 => contradiction
  case h_2 others skipped =>
    rcases Outcome.bind_eq_ok_iff.mp read with ⟨after, readRest, isRest⟩
    cases isRest
    rw [readValue_null (skipSpace_append_of_cons skipped tail), readWord_append readRest]
    rfl
  case h_3 others skipped =>
    rcases Outcome.bind_eq_ok_iff.mp read with ⟨after, readRest, isRest⟩
    cases isRest
    rw [readValue_true (skipSpace_append_of_cons skipped tail), readWord_append readRest]
    rfl
  case h_4 others skipped =>
    rcases Outcome.bind_eq_ok_iff.mp read with ⟨after, readRest, isRest⟩
    cases isRest
    rw [readValue_false (skipSpace_append_of_cons skipped tail), readWord_append readRest]
    rfl
  case h_5 others skipped =>
    rcases Outcome.bind_eq_ok_iff.mp read with ⟨⟨content, after⟩, isText, isRest⟩
    cases isRest
    rw [readValue_text (skipSpace_append_of_cons skipped tail), readText_append isText]
    rfl
  case h_6 others skipped =>
    split at read
    · contradiction
    · split at read
      · cases read
        contradiction
      · rcases Outcome.bind_eq_ok_iff.mp read with ⟨_, _, isRest⟩
        cases isRest
        contradiction
  case h_7 others skipped =>
    split at read
    · contradiction
    · rcases Outcome.bind_eq_ok_iff.mp read with ⟨_, _, isRest⟩
      cases isRest
      contradiction
  case h_8 c others _ _ _ _ _ _ skipped =>
    split at read
    · next startsNumber =>
        rw [readValue_number startsNumber (skipSpace_append_of_cons skipped tail),
          ← List.cons_append]
        exact ends.readNumber_append read
    · contradiction

/-! ## Numbers that can be spelled -/

/-- A number is one that a text can spell: a whole one of 64 bits, or a finite double. -/
def IsSpellable : Json → Prop
  | .integer number => number.natAbs < Nat.pow 2 64
  | .real number => number.isFinite = true
  | _ => True

theorem isSpellable_of_numberOf
    {negative : Bool}
    {whole : List Char}
    {fraction : Option (List Char)}
    {exponent : Option Int}
    {json : Json}
    (isNumber : numberOf negative whole fraction exponent = .ok json) :
    json.IsSpellable := by
  rw [numberOf] at isNumber
  dsimp only at isNumber
  split at isNumber
  · next isWhole =>
      cases isNumber
      simp only [Bool.and_eq_true, fitsInteger, Nat.pow_eq] at isWhole
      cases negative with
      | true =>
          have fits := isWhole.2
          simp only [if_true, Bool.and_eq_true, decide_eq_true_eq] at fits
          simp only [IsSpellable, if_true, Int.natAbs_neg, Int.natAbs_natCast, Nat.pow_eq]
          omega
      | false => simpa [IsSpellable] using isWhole.2
  · split at isNumber
    · next isFinite =>
        cases isNumber
        exact isFinite
    · contradiction

/-- What is read from a text can be spelled. -/
theorem isSpellable_of_readValue
    {depth : Nat}
    {json : Json}
    (read : readValue depth input = .ok (json, rest)) :
    json.IsSpellable := by
  rw [readValue.eq_def] at read
  dsimp only at read
  split at read
  case h_1 => contradiction
  case h_6 =>
    split at read
    · contradiction
    · split at read
      · cases read
        trivial
      · rcases Outcome.bind_eq_ok_iff.mp read with ⟨_, _, isRest⟩
        cases isRest
        trivial
  case h_7 =>
    split at read
    · contradiction
    · rcases Outcome.bind_eq_ok_iff.mp read with ⟨_, _, isRest⟩
      cases isRest
      trivial
  case h_8 =>
    split at read
    · rcases Outcome.bind_eq_ok_iff.mp read with ⟨_, _, read⟩
      rcases Outcome.bind_eq_ok_iff.mp read with ⟨_, _, read⟩
      rcases Outcome.bind_eq_ok_iff.mp read with ⟨_, _, read⟩
      rcases Outcome.bind_eq_ok_iff.mp read with ⟨_, isNumber, isRest⟩
      cases isRest
      exact isSpellable_of_numberOf isNumber
    · contradiction
  all_goals
    rcases Outcome.bind_eq_ok_iff.mp read with ⟨_, _, isRest⟩
    cases isRest
    trivial

theorem isSpellable_of_read
    {text : String}
    {json : Json}
    (isRead : read text = .ok json) :
    json.IsSpellable := by
  rcases Outcome.bind_eq_ok_iff.mp isRead with ⟨⟨value, blanks⟩, isValue, isLast⟩
  dsimp only at isLast
  split at isLast
  · cases isLast
    exact isSpellable_of_readValue isValue
  · contradiction

/-! ## Reading members -/

section Members

variable
    {α : Type}
    {readMember : α → String → List Char → Except Fault (α × List Char)}
    {motive : α → Prop}
    (kept :
      ∀ known name input next rest, motive known →
        readMember known name input = .ok (next, rest) → motive next)

include kept

/-- What reading one member keeps is kept while members are read. -/
theorem readMembers_induction
    {bound : Nat}
    {known last : α}
    {input rest : List Char}
    (holds : motive known)
    (reads : readMembers readMember bound known input = .ok (last, rest)) :
    motive last := by
  induction bound generalizing known input with
  | zero => contradiction
  | succ bound induction =>
      rw [readMembers.eq_def] at reads
      dsimp only at reads
      split at reads
      · contradiction
      · rcases Outcome.bind_eq_ok_iff.mp reads with ⟨⟨name, _⟩, _, reads⟩
        rcases Outcome.bind_eq_ok_iff.mp reads with ⟨⟨next, _⟩, isMember, reads⟩
        have isNext := kept known name _ next _ holds isMember
        dsimp only at reads
        split at reads
        · contradiction
        · cases reads
          exact isNext
        · exact induction isNext reads
        · contradiction
      · contradiction

theorem readObject_induction
    {known last : α}
    {input rest : List Char}
    (holds : motive known)
    (reads : readObject readMember known input = .ok (last, rest)) :
    motive last := by
  rw [readObject] at reads
  split at reads
  · cases reads
    exact holds
  · exact readMembers_induction kept holds reads

end Members

end RecordStore.Json
