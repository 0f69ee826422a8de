import RecordStore.Proofs.Json.Number
import RecordStore.Proofs.Text
import RecordStore.Proofs.Yaml.Entry
import RecordStore.Settings

/-!
# The policy in a file of settings

A text that names a policy consists of letters, or of digits that a plus sign
may stand before.  In a file of settings it is one word, which is a flag, a
whole number or a text to YAML.  All three ways lead to the policy that the
text itself names: the words of the flags are among those of the policies, and
digits stand for the same number unless a leading zero makes a text of them,
which is then read as a policy again.

Main statement: `Settings.read_policy`.
-/

namespace RecordStore

open Json (AreDigits digitsValue digitValue)

/-! ## Texts of policies -/

namespace AutoCommit

variable {text : String} {policy : AutoCommit}

/-- Digits for a number of puts, after an optional plus sign. -/
structure IsCount (chars digits : List Char) : Prop where
  chars_eq : chars = digits ∨ chars = '+' :: digits
  nonempty : digits ≠ []
  areDigits : AreDigits digits
  small : digitsValue digits ≤ maximalCount

theorem isCount_of_readCount?
    {chars : List Char}
    {count : Nat}
    (isRead : readCount? chars = some count) :
    ∃ digits, IsCount chars digits ∧ count = digitsValue digits := by
  have isSplit : ∃ digits, (chars = digits ∨ chars = '+' :: digits) ∧
      (if digits.isEmpty || !digits.all Char.isDigit then none
        else if digitsValue digits ≤ maximalCount then some (digitsValue digits) else none) =
          some count := by
    by_cases hasSign : ∃ rest, chars = '+' :: rest
    · rcases hasSign with ⟨rest, rfl⟩
      exact ⟨rest, .inr rfl, isRead⟩
    · rw [readCount?] at isRead
      · exact ⟨chars, .inl rfl, isRead⟩
      · exact fun rest isSigned => hasSign ⟨rest, isSigned⟩
  rcases isSplit with ⟨digits, isText, isNumber⟩
  split at isNumber
  · contradiction
  · next areDigits =>
      rw [Bool.not_eq_true, Bool.or_eq_false_iff, Bool.not_eq_false'] at areDigits
      split at isNumber
      · next small =>
          refine ⟨digits, ⟨isText, ?_, List.all_eq_true.mp areDigits.2, small⟩, ?_⟩
          · rintro rfl
            exact absurd areDigits.1 (by decide)
          · exact (Option.some.inj isNumber).symm
      · contradiction

theorem isAlpha_of_isDigit
    {c : Char}
    (isDigit : c.isDigit = true) :
    c.isAlpha = false := by
  simp only [Char.isDigit, Bool.and_eq_true, decide_eq_true_eq, ge_iff_le,
    UInt32.le_iff_toNat_le] at isDigit
  change 48 ≤ c.val.toNat ∧ c.val.toNat ≤ 57 at isDigit
  rw [← Bool.not_eq_true, Text.isAlpha_iff_code]
  omega

theorem IsCount.isDigit_or_plus
    {chars digits : List Char}
    (isCount : IsCount chars digits) :
    ∀ c ∈ chars, c.isDigit = true ∨ c = '+' := by
  intro c member
  rcases isCount.chars_eq with rfl | rfl
  · exact .inl (isCount.areDigits c member)
  · rcases List.mem_cons.mp member with rfl | isDigit
    · exact .inr rfl
    · exact .inl (isCount.areDigits c isDigit)

/-- A character that changes into its small form is a letter, and so is that form. -/
theorem toLower_eq_or (c : Char) :
    c.toLower = c ∨ c.isAlpha = true ∧ c.toLower.isAlpha = true := by
  by_cases isCapital : c.val ≥ 'A'.val ∧ c.val ≤ 'Z'.val
  · right
    have code : 65 ≤ c.val.toNat ∧ c.val.toNat ≤ 90 := isCapital
    have lowerCode : c.toLower.val.toNat = c.val.toNat + 32 := by
      have changed : c.toLower = _ := dif_pos isCapital
      rw [changed]
      show (c.val + 32).toNat = _
      rw [UInt32.toNat_add]
      show (c.val.toNat + 32) % 2 ^ 32 = _
      omega
    rw [Text.isAlpha_iff_code, Text.isAlpha_iff_code]
    omega
  · exact .inl (dif_neg isCapital)

theorem map_toLower_of_noLetter
    {chars : List Char}
    (noLetter : ∀ c ∈ chars.map Char.toLower, c.isAlpha = false) :
    chars.map Char.toLower = chars := by
  rw [List.forall_mem_map] at noLetter
  have isKept (c : Char) (member : c ∈ chars) : c.toLower = id c := by
    rcases toLower_eq_or c with same | ⟨_, isLetter⟩
    · exact same
    · rw [noLetter c member] at isLetter
      contradiction
  rw [List.map_congr_left isKept, List.map_id]

/-- A text names a policy by a word of letters or by a number of puts. -/
theorem letters_or_isCount_of_read?
    (haveNoBlank : Text.HaveNoBlank text.toList)
    (isPolicy : read? text = some policy) :
    (text.toList ≠ [] ∧ ∀ c ∈ text.toList, c.isAlpha = true) ∨
      ∃ digits, IsCount text.toList digits ∧ policy = ofCount (digitsValue digits) := by
  have areLetters :
      ∀ word ∈ manualWords ++ everyPutWords,
        word.toList ≠ [] ∧ word.toList.all Char.isAlpha = true := by
    decide
  have ofWord (isWord : Text.lower text ∈ manualWords ++ everyPutWords) :
      text.toList ≠ [] ∧ ∀ c ∈ text.toList, c.isAlpha = true := by
    rcases areLetters _ isWord with ⟨nonempty, letters⟩
    rw [Text.lower, String.toList_ofList] at nonempty letters
    refine ⟨fun isNil => nonempty (by rw [isNil]; rfl), fun c member => ?_⟩
    have isLetter := List.all_eq_true.mp letters c.toLower (List.mem_map_of_mem member)
    rcases toLower_eq_or c with same | ⟨known, _⟩
    · rwa [same] at isLetter
    · exact known
  rw [read?, Text.trim_of_haveNoBlank haveNoBlank] at isPolicy
  split at isPolicy
  · next isManual =>
      exact .inl (ofWord (List.mem_append_left _ (List.contains_iff_mem.mp isManual)))
  · split at isPolicy
    · next isEveryPut =>
        exact .inl (ofWord (List.mem_append_right _ (List.contains_iff_mem.mp isEveryPut)))
    · rcases Option.map_eq_some_iff.mp isPolicy with ⟨count, isCount, isPolicy⟩
      rw [Text.lower, String.toList_ofList] at isCount
      rcases isCount_of_readCount? isCount with ⟨digits, hasDigits, rfl⟩
      have sameText : text.toList.map Char.toLower = text.toList := by
        apply map_toLower_of_noLetter
        intro c member
        rcases hasDigits.isDigit_or_plus c member with isDigit | rfl
        · exact isAlpha_of_isDigit isDigit
        · rfl
      rw [sameText] at hasDigits
      exact .inr ⟨digits, hasDigits, isPolicy.symm⟩

end AutoCommit

/-! ## What the text means -/

namespace Yaml.Meaning

theorem isDigit_of_hexValue?
    {c : Char}
    {digit : Nat}
    (isHex : Json.hexValue? c = some digit)
    (small : digit < 10) :
    c.isDigit = true ∧ digit = digitValue c := by
  have lowercase : 'a' ≤ c → 97 ≤ c.toNat := UInt32.le_iff_toNat_le.mp
  have uppercase : 'A' ≤ c → 65 ≤ c.toNat := UInt32.le_iff_toNat_le.mp
  rw [Json.hexValue?] at isHex
  split at isHex
  · next isDigit => exact ⟨isDigit, (Option.some.inj isHex).symm⟩
  · split at isHex
    · next isLetter =>
        rw [Bool.and_eq_true, decide_eq_true_eq, decide_eq_true_eq] at isLetter
        have large := lowercase isLetter.1
        have isValue := Option.some.inj isHex
        omega
    · split at isHex
      · next isLetter =>
          rw [Bool.and_eq_true, decide_eq_true_eq, decide_eq_true_eq] at isLetter
          have large := uppercase isLetter.1
          have isValue := Option.some.inj isHex
          omega
      · contradiction

/-- Steps that take a number to the one with a further digit read digits only. -/
theorem of_foldlM_digits
    {step : Nat → Char → Option Nat}
    (isStep :
      ∀ {known next : Nat} {c : Char}, step known c = some next →
        c.isDigit = true ∧ next = 10 * known + digitValue c)
    {digits : List Char}
    {known value : Nat}
    (isValue : digits.foldlM step known = some value) :
    AreDigits digits ∧ value = digits.foldl (fun value c => 10 * value + digitValue c) known := by
  induction digits generalizing known with
  | nil => exact ⟨fun _ member => absurd member List.not_mem_nil, (Option.some.inj isValue).symm⟩
  | cons c rest induction =>
      rw [List.foldlM_cons] at isValue
      rcases Option.bind_eq_some_iff.mp isValue with ⟨next, isNext, isValue⟩
      rcases isStep isNext with ⟨isDigit, rfl⟩
      rcases induction isValue with ⟨others, isValue⟩
      exact ⟨List.forall_mem_cons.mpr ⟨isDigit, others⟩, isValue⟩

theorem digits?_ten
    {digits : List Char}
    {value : Nat}
    (isValue : digits? 10 digits = some value) :
    digits ≠ [] ∧ AreDigits digits ∧ value = digitsValue digits := by
  rw [digits?] at isValue
  split at isValue
  · contradiction
  · next nonempty =>
      refine ⟨fun isNil => nonempty (List.isEmpty_iff.mpr isNil), of_foldlM_digits ?_ isValue⟩
      intro known next c isNext
      split at isNext
      · next digit isHex =>
          split at isNext
          · next small =>
              rcases isDigit_of_hexValue? isHex small with ⟨isDigit, rfl⟩
              exact ⟨isDigit, (Option.some.inj isNext).symm⟩
          · contradiction
      · contradiction

theorem natural?_of_areDigits
    {digits : List Char}
    {value : Nat}
    (areDigits : AreDigits digits)
    (isValue : natural? digits = some value) :
    value = digitsValue digits := by
  have apart {c : Char} (notDigit : c.isDigit = false) : c ∉ digits := by
    intro member
    rw [areDigits c member] at notDigit
    contradiction
  rw [natural?.eq_def] at isValue
  split at isValue
  · exact absurd (by simp) (apart (c := 'x') rfl)
  · exact absurd (by simp) (apart (c := 'o') rfl)
  · exact absurd (by simp) (apart (c := 'b') rfl)
  · contradiction
  · exact (digits?_ten isValue).2.2

theorem integer?_of_letters
    {text : String}
    (nonempty : text.toList ≠ [])
    (areLetters : ∀ c ∈ text.toList, c.isAlpha = true) :
    integer? text = none := by
  rw [integer?]
  cases isText : text.toList with
  | nil => exact absurd isText nonempty
  | cons c rest =>
      have isLetter : c.isAlpha = true := areLetters c (by rw [isText]; exact List.mem_cons_self)
      have apart {other : Char} (noLetter : other.isAlpha = false) : c ≠ other := by
        rintro rfl
        rw [isLetter] at noLetter
        contradiction
      have isNatural : natural? (c :: rest) = none := by
        have notZero : c ≠ '0' := apart rfl
        cases isValue : natural? (c :: rest) with
        | none => rfl
        | some value =>
            rw [natural?.eq_def] at isValue
            split at isValue
            case h_5 =>
              have isDigit := (digits?_ten isValue).2.1 c List.mem_cons_self
              rw [AutoCommit.isAlpha_of_isDigit isDigit] at isLetter
              contradiction
            all_goals
              next same => exact absurd (List.cons.inj same).1 notZero
      split
      · next same => exact absurd (List.cons.inj same).1 (apart rfl)
      · next same => exact absurd (List.cons.inj same).1 (apart rfl)
      · rw [isNatural]
        rfl

theorem integer?_of_isCount
    {text : String}
    {digits : List Char}
    {number : Int}
    (isCount : AutoCommit.IsCount text.toList digits)
    (isNumber : integer? text = some number) :
    number = digitsValue digits := by
  have isValue
      (isNumber : ((natural? digits).map fun magnitude => (magnitude : Int)) = some number) :
      number = digitsValue digits := by
    rcases Option.map_eq_some_iff.mp isNumber with ⟨lifted, isLifted, rfl⟩
    rcases Option.bind_eq_some_iff.mp isLifted with ⟨value, isValue, isSame⟩
    cases isSame
    rw [natural?_of_areDigits isCount.areDigits isValue]
  rw [integer?] at isNumber
  rcases isCount.chars_eq with isText | isText
  · rw [isText] at isNumber
    split at isNumber
    · next same => exact absurd (isCount.areDigits '-' (by simp)) (by decide)
    · next same => exact absurd (isCount.areDigits '+' (by simp)) (by decide)
    · exact isValue isNumber
  · rw [isText] at isNumber
    exact isValue isNumber

end Yaml.Meaning

/-! ## The policy of a scalar -/

namespace Settings

open Yaml

variable {text : String} {policy : AutoCommit}

/-- The scalar of a text that stands without quotes. -/
def plain (text : String) : Scalar :=
  { tag := none
    isPlain := true
    text := text }

theorem policyOf?_of_integer
    {scalar : Scalar}
    {count : Nat}
    (isMeaning : scalar.meaning? = some (.integer count))
    (small : count ≤ AutoCommit.maximalCount) :
    policyOf? scalar = some (.ofCount count) := by
  have inRange : (0 ≤ (count : Int) && (count : Int) ≤ AutoCommit.maximalCount) = true := by
    rw [Bool.and_eq_true, decide_eq_true_eq, decide_eq_true_eq]
    exact ⟨Int.natCast_nonneg count, Int.ofNat_le.mpr small⟩
  rw [policyOf?, isMeaning]
  simp only [inRange, if_true, Int.toNat_natCast]

theorem policyOf?_plain
    (haveNoBlank : Text.HaveNoBlank text.toList)
    (isPolicy : AutoCommit.read? text = some policy) :
    policyOf? (plain text) = some policy := by
  have noNull : (text.isEmpty || Meaning.nullWords.contains text) = false := by
    have areNone : ∀ word ∈ "" :: Meaning.nullWords, AutoCommit.read? word = none := by decide
    have apart : text ∉ "" :: Meaning.nullWords := by
      intro isWord
      rw [areNone text isWord] at isPolicy
      contradiction
    rw [List.mem_cons, not_or] at apart
    simpa using apart
  have areFlags :
      ∀ entry ∈ Meaning.booleanWords, AutoCommit.read? entry.1 = some (.ofFlag entry.2) := by
    decide
  have isPlain : (plain text).meaning? = some (.ofPlain text) := rfl
  cases isFlag : Meaning.booleanWords.lookup text with
  | some flag =>
      have isMeaning : (plain text).meaning? = some (.boolean flag) := by
        rw [isPlain, Meaning.ofPlain, noNull, if_neg Bool.false_ne_true, isFlag]
      rcases List.lookup_eq_some_iff.mp isFlag with ⟨before, after, areWords, _⟩
      have isEntry : (text, flag) ∈ Meaning.booleanWords := by
        rw [areWords]
        exact List.mem_append_right before List.mem_cons_self
      rw [policyOf?, isMeaning, ← isPolicy, areFlags _ isEntry]
  | none =>
      cases isNumber : Meaning.integer? text with
      | none =>
          have isMeaning : (plain text).meaning? = some (.text text) := by
            rw [isPlain, Meaning.ofPlain, noNull, if_neg Bool.false_ne_true, isFlag]
            dsimp only
            rw [isNumber]
          rw [policyOf?, isMeaning]
          exact isPolicy
      | some number =>
          have isMeaning : (plain text).meaning? = some (.integer number) := by
            rw [isPlain, Meaning.ofPlain, noNull, if_neg Bool.false_ne_true, isFlag]
            dsimp only
            rw [isNumber]
          -- Only a text of digits means a number, and the policy has counted the same digits.
          rcases AutoCommit.letters_or_isCount_of_read? haveNoBlank isPolicy with
            ⟨nonempty, letters⟩ | ⟨digits, isCount, rfl⟩
          · cases (Meaning.integer?_of_letters nonempty letters).symm.trans isNumber
          · rw [Meaning.integer?_of_isCount isCount isNumber] at isMeaning
            exact policyOf?_of_integer isMeaning isCount.small

theorem isWord_of_read?
    (haveNoBlank : Text.HaveNoBlank text.toList)
    (isPolicy : AutoCommit.read? text = some policy) :
    IsWord text.toList := by
  rcases AutoCommit.letters_or_isCount_of_read? haveNoBlank isPolicy with
    ⟨nonempty, letters⟩ | ⟨digits, isCount, _⟩
  · refine ⟨nonempty, fun c member => ?_⟩
    simp [isInert, Char.isAlphanum, letters c member]
  · constructor
    · rcases isCount.chars_eq with isText | isText
      · rw [isText]
        exact isCount.nonempty
      · rw [isText]
        exact List.cons_ne_nil _ _
    · intro c member
      rcases isCount.isDigit_or_plus c member with isDigit | rfl
      · simp [isInert, Char.isAlphanum, isDigit]
      · rfl

theorem ofDocument?_policy (isPolicy : policyOf? (plain text) = some policy) :
    ofDocument? (Document.entryNode policyKey.toList text.toList) =
      some { unset with policy := policy } := by
  have areEntries :
      entriesOf? (Document.entryNode policyKey.toList text.toList) =
        some [(policyKey, .scalar (plain (String.ofList text.toList)))] :=
    rfl
  rw [String.ofList_toList] at areEntries
  rw [ofDocument?, areEntries]
  have isScalar (document : Node) :
      (document.scalar? (.scalar (plain text))).bind policyOf? = some policy := isPolicy
  have noUri (node : Node) : [(policyKey, node)].lookup uriKey = none := rfl
  have isGiven (node : Node) : [(policyKey, node)].lookup policyKey = some node := rfl
  have noFields (node : Node) : [(policyKey, node)].lookup fieldsKey = none := rfl
  simp only [Option.bind_eq_bind, Option.bind_some, noUri, isGiven, noFields, isScalar]

/--
A text without blanks that names a policy names the same policy in a file of
settings, whatever it means to YAML.
-/
theorem read_policy
    (haveNoBlank : Text.HaveNoBlank text.toList)
    (isPolicy : AutoCommit.read? text = some policy) :
    read ("autocommit: " ++ text) = .ok { unset with policy := policy } := by
  have isKey : IsWord policyKey.toList := ⟨by decide, List.all_eq_true.mp (by decide)⟩
  have isLine :
      "autocommit: " ++ text = String.ofList (policyKey.toList ++ ':' :: ' ' :: text.toList) := by
    apply String.toList_injective
    simp only [String.toList_append, String.toList_ofList]
    rfl
  have isNode :=
    Document.read?_entry isKey (isWord_of_read? haveNoBlank isPolicy) (by decide)
  rw [read, isLine, isNode, Option.bind_some,
    ofDocument?_policy (policyOf?_plain haveNoBlank isPolicy)]

/-- A number of puts with a leading zero is a text to YAML. -/
theorem read_policy_leadingZero :
    Text.HaveNoBlank "017".toList ∧ AutoCommit.read? "017" = some (.every 17 (by decide)) ∧
      read ("autocommit: " ++ "017") = .ok { unset with policy := .every 17 (by decide) } := by
  have haveNoBlank : Text.HaveNoBlank "017".toList := by decide
  have isPolicy : AutoCommit.read? "017" = some (.every 17 (by decide)) := by decide
  exact ⟨haveNoBlank, isPolicy, read_policy haveNoBlank isPolicy⟩

end Settings

end RecordStore
