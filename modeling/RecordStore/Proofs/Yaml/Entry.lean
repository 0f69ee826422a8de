import RecordStore.Proofs.Outcome
import RecordStore.Proofs.Text
import RecordStore.Yaml.Document

/-!
# A line with one entry

Letters, digits and plus signs have no meaning of their own in YAML.  Words
of such characters are plain scalars, and two of them with a colon and a space
between them are the only entry of a mapping.

The text is followed through its places, its tokens and its node.  The key is
read as a scalar first and becomes a key at the colon, which also opens the
mapping; the end of the text closes it.

Main statement: `Document.read?_entry`.
-/

namespace RecordStore.Yaml

/-- A character that has no meaning of its own: an ASCII letter, a digit or a plus sign. -/
def isInert (c : Char) : Bool :=
  c.isAlphanum || c == '+'

/-- The characters of a word: there are some, and none has a meaning of its own. -/
structure IsWord (chars : List Char) : Prop where
  nonempty : chars ≠ []
  areInert : ∀ c ∈ chars, isInert c = true

theorem ne_of_isInert
    {c other : Char}
    (inert : isInert c = true)
    (notInert : isInert other = false) :
    c ≠ other := by
  rintro rfl
  rw [inert] at notInert
  contradiction

/-- The codes of inert characters are those of printed ASCII characters. -/
theorem code_of_isInert
    {c : Char}
    (inert : isInert c = true) :
    0x2B ≤ c.toNat ∧ c.toNat ≤ 0x7A := by
  simp only [isInert, Char.isAlphanum, Text.isAlpha_iff_code, Char.isDigit, Bool.or_eq_true,
    Bool.and_eq_true, decide_eq_true_eq, beq_iff_eq, UInt32.le_iff_toNat_le] at inert
  change ((65 ≤ c.toNat ∧ c.toNat ≤ 90 ∨ 97 ≤ c.toNat ∧ c.toNat ≤ 122) ∨
    48 ≤ c.toNat ∧ c.toNat ≤ 57) ∨ c = '+' at inert
  rcases inert with isCode | rfl
  · omega
  · decide

theorem isGap_of_isInert
    {c : Char}
    (inert : isInert c = true) :
    isGap c = false := by
  have code := code_of_isInert inert
  have apart : c ≠ ' ' ∧ c ≠ '\t' ∧ c ≠ '\n' ∧ c ≠ '\r' :=
    ⟨ne_of_isInert inert rfl, ne_of_isInert inert rfl, ne_of_isInert inert rfl,
      ne_of_isInert inert rfl⟩
  have noSeparator : c.toNat ≠ 0x85 ∧ c.toNat ≠ 0x2028 ∧ c.toNat ≠ 0x2029 := by omega
  simp [isGap, isSpace, isBreak, isSeparator, apart, noSeparator]

theorem isPrintable_of_isInert
    {c : Char}
    (inert : isInert c = true) :
    isPrintable c = true := by
  have code := code_of_isInert inert
  have isCode : 0x20 ≤ c.toNat ∧ c.toNat ≤ 0x7E := by omega
  simp [isPrintable, isCode]

/-! ## Places -/

theorem isBreak_eq_false
    {c : Char}
    (noGap : isGap c = false) :
    isBreak c = false :=
  (Bool.or_eq_false_iff.mp noGap).2

theorem locateFrom_cons
    {c : Char}
    (noBreak : isBreak c = false)
    (line column : Nat)
    (rest : List Char) :
    locateFrom line column (c :: rest) = ⟨c, line, column⟩ :: locateFrom line (column + 1) rest := by
  have noReturn : c ≠ '\r' := by
    rintro rfl
    contradiction
  have noSeparator : isSeparator c = false := (Bool.or_eq_false_iff.mp noBreak).2
  rw [locateFrom.eq_def]
  split
  · contradiction
  · next same => exact absurd (List.cons.inj same).1 noReturn
  · next same =>
      cases same
      rw [noSeparator, noBreak]
      rfl

theorem locateFrom_append
    {first : List Char}
    (noBreak : ∀ c ∈ first, isBreak c = false)
    (line column : Nat)
    (second : List Char) :
    locateFrom line column (first ++ second) =
      locateFrom line column first ++ locateFrom line (column + first.length) second := by
  induction first generalizing column with
  | nil => rfl
  | cons c rest induction =>
      have isFirst := noBreak c List.mem_cons_self
      have others := induction (fun d member => noBreak d (List.mem_cons_of_mem c member))
      rw [List.cons_append, locateFrom_cons isFirst, locateFrom_cons isFirst, others,
        List.cons_append, List.length_cons, Nat.add_assoc, Nat.add_comm 1]

theorem length_locateFrom
    {chars : List Char}
    (noBreak : ∀ c ∈ chars, isBreak c = false)
    (line column : Nat) :
    (locateFrom line column chars).length = chars.length := by
  induction chars generalizing column with
  | nil => rfl
  | cons c rest induction =>
      have others := induction (fun d member => noBreak d (List.mem_cons_of_mem c member))
      rw [locateFrom_cons (noBreak c List.mem_cons_self), List.length_cons, others,
        List.length_cons]

theorem IsWord.noBreak
    {chars : List Char}
    (isWord : IsWord chars) :
    ∀ c ∈ chars, isBreak c = false :=
  fun c member => isBreak_eq_false (isGap_of_isInert (isWord.areInert c member))

theorem IsWord.locateFrom_eq_cons
    {chars : List Char}
    (isWord : IsWord chars)
    (line column : Nat) :
    ∃ c others, isInert c = true ∧
      locateFrom line column chars = ⟨c, line, column⟩ :: locateFrom line (column + 1) others := by
  cases chars with
  | nil => exact absurd rfl isWord.nonempty
  | cons c others =>
      have inert := isWord.areInert c List.mem_cons_self
      exact ⟨c, others, inert, locateFrom_cons (isBreak_eq_false (isGap_of_isInert inert)) _ _ _⟩

/-! ## Plain scalars -/

namespace Plain

/-- Nothing of a scalar is left: the text has ended, or a colon and a gap follow. -/
def EndsWord (rest : List Located) : Prop :=
  rest = [] ∨ ∃ place others, rest = place :: others ∧ place.char = ':' ∧ startsGap others = true

theorem word_locateFrom
    {chars : List Char}
    {rest : List Located}
    (areInert : ∀ c ∈ chars, isInert c = true)
    (ends : EndsWord rest)
    (line column : Nat) :
    word false (locateFrom line column chars ++ rest) = some (chars, rest) := by
  induction chars generalizing column with
  | nil =>
      rcases ends with rfl | ⟨place, others, rfl, isColon, isGapNext⟩
      · rfl
      · have noGap : isGap ':' = false := by decide
        simp [locateFrom, word, noGap, isColon, isGapNext]
  | cons c chars induction =>
      have inert := areInert c List.mem_cons_self
      have others := induction (fun d member => areInert d (List.mem_cons_of_mem c member))
      have noGap := isGap_of_isInert inert
      have noColon : c ≠ ':' := ne_of_isInert inert rfl
      rw [locateFrom_cons (isBreak_eq_false noGap), List.cons_append, word]
      simp [noGap, noColon, others]

theorem startsTriple_of_ne
    {char : Char}
    {place : Located}
    (apart : place.char ≠ char)
    (rest : List Located) :
    startsTriple char (place :: rest) = false := by
  rw [startsTriple.eq_def]
  split
  · next same =>
      cases same
      simp [apart]
  · rfl

theorem read_locateFrom
    {chars : List Char}
    {rest : List Located}
    (isWord : IsWord chars)
    (ends : EndsWord rest)
    (margin line column : Nat) :
    read false margin (locateFrom line column chars ++ rest) = some ⟨chars, false, rest⟩ := by
  have isFound := word_locateFrom isWord.areInert ends line column
  have noMark :
      startsMarker (locateFrom line column chars ++ rest) = false ∧
        startsWith '#' (locateFrom line column chars ++ rest) = false := by
    rcases isWord.locateFrom_eq_cons line column with ⟨c, others, inert, isFirst⟩
    have apart {other : Char} (notInert : isInert other = false) : c ≠ other :=
      ne_of_isInert inert notInert
    rw [isFirst, List.cons_append]
    constructor
    · rw [startsMarker, startsTriple_of_ne (apart rfl), startsTriple_of_ne (apart rfl)]
      rfl
    · simpa [startsWith] using apart rfl
  rw [read, readFrom.eq_def, noMark.1, noMark.2, if_neg (by decide)]
  split
  · next failed => cases failed.symm.trans isFound
  · next text isAll =>
      cases isAll.symm.trans isFound
      rfl
  · next text place others isPart =>
      cases isPart.symm.trans isFound
      rcases ends with isNil | ⟨colon, more, isColon, isMark, _⟩
      · contradiction
      · cases isColon
        have noGap : ¬isGap place.char = true := by
          rw [isMark]
          decide
        rw [dif_neg noGap]
        rfl

end Plain

/-! ## Tokens -/

namespace Token

theorem skipBetween_inert
    {place : Located}
    (inert : isInert place.char = true)
    (allowsKey : Bool)
    (rest : List Located) :
    skipBetween false allowsKey false (place :: rest) = (allowsKey, place :: rest) := by
  have noBreak := isBreak_eq_false (isGap_of_isInert inert)
  have apart {other : Char} (notInert : isInert other = false) : place.char ≠ other :=
    ne_of_isInert inert notInert
  have noSpace : place.char ≠ ' ' := apart rfl
  have noTab : place.char ≠ '\t' := apart rfl
  have noMark : place.char ≠ byteOrderMark := apart rfl
  have noComment : place.char ≠ '#' := apart rfl
  simp [skipBetween, noBreak, noSpace, noTab, noMark, noComment]

theorem startsPlain_of_isInert
    {c : Char}
    (inert : isInert c = true) :
    startsPlain c = true := by
  have noneInert : ¬reserved.any isInert = true := by decide
  have notReserved : c ∉ reserved :=
    fun member => noneInert (List.any_eq_true.mpr ⟨c, member, inert⟩)
  simp [startsPlain, isGap_of_isInert inert, notReserved]

/-- A word can be nothing but a plain scalar. -/
theorem readNext_inert
    {place : Located}
    (inert : isInert place.char = true)
    (layout : Layout)
    (rest : List Located) :
    readNext layout place rest = readPlain layout place (place :: rest) := by
  have apart (other : Char) (notInert : isInert other = false) : place.char ≠ other :=
    ne_of_isInert inert notInert
  have noDash := Plain.startsTriple_of_ne (apart '-' rfl) rest
  have noPoint := Plain.startsTriple_of_ne (apart '.' rfl) rest
  rw [readNext]
  simp only [noDash, noPoint, apart '%' rfl, apart '[' rfl,
    apart '\x7b' rfl, apart ']' rfl, apart '\x7d' rfl,
    apart ',' rfl, apart '-' rfl, apart '?' rfl,
    apart ':' rfl, apart '*' rfl, apart '&' rfl,
    apart '!' rfl, apart '|' rfl, apart '>' rfl,
    apart Quoted.Quote.single.char rfl, apart Quoted.Quote.double.char rfl,
    startsPlain_of_isInert inert, and_false, false_and, if_false, if_true, Bool.false_eq_true]

/-- One token is read: what is between the tokens is skipped, and keys that cannot last end. -/
theorem readFrom_step
    (layout : Layout)
    {current next : Layout}
    {allowsKey : Bool}
    {place : Located}
    {chars rest after : List Located}
    (skipped : skipBetween layout.inFlow layout.allowsKey false chars = (allowsKey, place :: rest))
    (isCurrent : { layout with allowsKey := allowsKey }.expireKeyStarts place = some current)
    (isNext : readNext (current.closeTo place.column) place rest = some (next, after))
    (bound : Nat) :
    readFrom (bound + 1) layout chars = readFrom bound next after := by
  rw [readFrom, skipped]
  simp only [isCurrent, isNext, Option.bind_eq_bind, Option.bind_some]

/-- The layout after the scalar that will be the key. -/
def afterKey (key : List Char) : Layout :=
  { tokens := [.scalar true (String.ofList key)]
    indents := []
    allowsKey := false
    keyStart := some { index := 0, isRequired := false, line := 0, column := 0 }
    outerKeyStarts := [] }

/-- The layout after the colon, which has opened a mapping before the key. -/
def afterColon (key : List Char) : Layout :=
  { tokens := [.blockMapping, .key, .scalar true (String.ofList key), .value]
    indents := [0]
    allowsKey := false
    keyStart := none
    outerKeyStarts := [] }

/-- The layout after the value. -/
def afterEntry (key value : List Char) : Layout :=
  (afterColon key).push (.scalar true (String.ofList value))

/-- The tokens of a mapping with one entry. -/
def entryTokens (key value : List Char) : List Token :=
  [.blockMapping, .key, .scalar true (String.ofList key), .value,
    .scalar true (String.ofList value), .blockEnd]

variable {key value : List Char} {rest : List Located}

theorem readFrom_key
    (isWord : IsWord key)
    (ends : Plain.EndsWord rest)
    (bound : Nat) :
    readFrom (bound + 1) .initial (locateFrom 0 0 key ++ rest) =
      readFrom bound (afterKey key) rest := by
  have isRead := Plain.read_locateFrom isWord ends Layout.initial.least 0 0
  rcases isWord.locateFrom_eq_cons 0 0 with ⟨c, others, inert, isFirst⟩
  rw [isFirst, List.cons_append] at isRead ⊢
  have isPlaceInert : isInert (Located.mk c 0 0).char = true := inert
  have skipped := skipBetween_inert isPlaceInert true (locateFrom 0 1 others ++ rest)
  refine readFrom_step .initial skipped rfl ?_ bound
  rw [readNext_inert inert, readPlain]
  exact congrArg (Option.bind · _) isRead

theorem readFrom_colon
    {column : Nat}
    (short : column ≤ Layout.maximalKey)
    (isGapNext : startsGap rest = true)
    (bound : Nat) :
    readFrom (bound + 1) (afterKey key) (⟨':', 0, column⟩ :: rest) =
      readFrom bound (afterColon key) rest := by
  have lasts :
      Layout.isPast { index := 0, isRequired := false, line := 0, column := 0 } ⟨':', 0, column⟩ =
        false := by
    simp [Layout.isPast, short]
  have isCurrent : (afterKey key).expireKeyStarts ⟨':', 0, column⟩ = some (afterKey key) := by
    simp [Layout.expireKeyStarts, afterKey, Layout.keep, lasts]
  refine readFrom_step (afterKey key) rfl isCurrent ?_ bound
  have noTriple {char : Char} (apart : ':' ≠ char) :
      startsTriple char (⟨':', 0, column⟩ :: rest) = false :=
    Plain.startsTriple_of_ne apart rest
  have noDirective : ¬(column = 0 ∧ ':' = '%') :=
    fun isDirective => absurd isDirective.2 (by decide)
  rw [readNext, if_neg noDirective, noTriple (by decide), noTriple (by decide), isGapNext]
  rfl

theorem readFrom_value
    (isWord : IsWord value)
    (column bound : Nat) :
    readFrom (bound + 1) (afterColon key)
        (⟨' ', 0, column⟩ :: locateFrom 0 (column + 1) value) =
      readFrom bound (afterEntry key value) [] := by
  have isRead := Plain.read_locateFrom isWord (.inl rfl) (afterColon key).least 0 (column + 1)
  rw [List.append_nil] at isRead
  rcases isWord.locateFrom_eq_cons 0 (column + 1) with ⟨c, others, inert, isFirst⟩
  rw [isFirst] at isRead ⊢
  have isPlaceInert : isInert (Located.mk c 0 (column + 1)).char = true := inert
  have skipped := skipBetween_inert isPlaceInert false (locateFrom 0 (column + 1 + 1) others)
  refine readFrom_step (afterColon key) skipped rfl ?_ bound
  rw [readNext_inert inert, readPlain]
  exact congrArg (Option.bind · _) isRead

theorem readFrom_end (bound : Nat) :
    readFrom (bound + 1) (afterEntry key value) [] = some (entryTokens key value) :=
  rfl

/-- A line with a key and a value has the tokens of a mapping with one entry. -/
theorem read?_entry
    (isKey : IsWord key)
    (isValue : IsWord value)
    (short : key.length ≤ Layout.maximalKey) :
    read? (String.ofList (key ++ ':' :: ' ' :: value)) = some (entryTokens key value) := by
  have arePrintable : (key ++ ':' :: ' ' :: value).all isPrintable = true := by
    rw [List.all_append, List.all_cons, List.all_cons, Bool.and_eq_true, Bool.and_eq_true,
      Bool.and_eq_true, List.all_eq_true, List.all_eq_true]
    exact
      ⟨fun c member => isPrintable_of_isInert (isKey.areInert c member), by decide, by decide,
        fun c member => isPrintable_of_isInert (isValue.areInert c member)⟩
  have isLocated :
      locateFrom 0 0 (key ++ ':' :: ' ' :: value) =
        locateFrom 0 0 key ++
          ⟨':', 0, key.length⟩ :: ⟨' ', 0, key.length + 1⟩ ::
            locateFrom 0 (key.length + 1 + 1) value := by
    rw [locateFrom_append isKey.noBreak, Nat.zero_add, locateFrom_cons (by decide),
      locateFrom_cons (by decide)]
  rw [read?, locate?, String.toList_ofList, if_pos arePrintable, isLocated]
  have ends :
      Plain.EndsWord
        (⟨':', 0, key.length⟩ :: ⟨' ', 0, key.length + 1⟩ ::
          locateFrom 0 (key.length + 1 + 1) value) :=
    .inr ⟨_, _, rfl, rfl, rfl⟩
  have isGapNext :
      startsGap (⟨' ', 0, key.length + 1⟩ :: locateFrom 0 (key.length + 1 + 1) value) = true :=
    rfl
  -- There are more characters than the four steps: the colon, the space and a word on both sides.
  have enough :
      ∃ bound, (locateFrom 0 0 key ++
        ⟨':', 0, key.length⟩ :: ⟨' ', 0, key.length + 1⟩ ::
          locateFrom 0 (key.length + 1 + 1) value).length + 1 = bound + 4 := by
    have nonempty := List.length_pos_iff.mpr isKey.nonempty
    refine ⟨key.length - 1 + value.length, ?_⟩
    rw [List.length_append, List.length_cons, List.length_cons, length_locateFrom isKey.noBreak,
      length_locateFrom isValue.noBreak]
    omega
  rcases enough with ⟨bound, isBound⟩
  rw [Option.bind_eq_bind, Option.bind_some, isBound, readFrom_key isKey ends,
    readFrom_colon short isGapNext, readFrom_value isValue, readFrom_end]

end Token

namespace Document

/-- The node of a mapping with one entry. -/
def entryNode (key value : List Char) : Node :=
  .mapping [(scalar none true (String.ofList key), scalar none true (String.ofList value))]

theorem ofTokens?_entry (key value : List Char) :
    ofTokens? (Token.entryTokens key value) = some (entryNode key value) :=
  rfl

/-- A line with a key and a value is a mapping with one entry. -/
theorem read?_entry
    {key value : List Char}
    (isKey : IsWord key)
    (isValue : IsWord value)
    (short : key.length ≤ Layout.maximalKey) :
    read? (String.ofList (key ++ ':' :: ' ' :: value)) = some (entryNode key value) := by
  rw [read?, Token.read?_entry isKey isValue short]
  exact ofTokens?_entry key value

end Document

end RecordStore.Yaml
