import RecordStore.Json.Writer
import RecordStore.Proofs.Json.Reader

/-!
# Reading what was written

A piece of text spells a value if it is read as that value wherever it stands.
Strings are read as they were written, and so are arrays and objects whose
parts spell what they hold.

Main statements: `readText_escape`, `readObject_pieces` and
`Spells.object`.
-/

namespace RecordStore.Json

/-! ## Strings -/

theorem hexValue?_hexDigit
    {number : Nat}
    (small : number < 16) :
    hexValue? (hexDigit number) = some number := by
  have all : ∀ number < 16, hexValue? (hexDigit number) = some number := by decide
  exact all number small

theorem readEscape_escape
    {c : Char}
    (control : c.toNat < 0x20)
    (rest : List Char) :
    readEscape
        ('u' :: '0' :: '0' :: hexDigit (c.toNat / 16) :: hexDigit (c.toNat % 16) :: rest) =
      .ok (c, rest) := by
  have zero : hexValue? '0' = some 0 := by decide
  have unit :
      readCodeUnit ('0' :: '0' :: hexDigit (c.toNat / 16) :: hexDigit (c.toNat % 16) :: rest) =
        .ok (c.toNat, rest) := by
    simp only [readCodeUnit, zero, hexValue?_hexDigit (show c.toNat / 16 < 16 by omega),
      hexValue?_hexDigit (Nat.mod_lt c.toNat (by decide : 0 < 16))]
    have parts : ((0 * 16 + 0) * 16 + c.toNat / 16) * 16 + c.toNat % 16 = c.toNat := by omega
    rw [parts]
  have noClose : closesPair c.toNat = false := by
    simp only [closesPair, Bool.and_eq_false_iff, decide_eq_false_iff_not]
    omega
  have noOpen : opensPair c.toNat = false := by
    simp only [opensPair, Bool.and_eq_false_iff, decide_eq_false_iff_not]
    omega
  rw [readEscape, readCodePoint, unit, Outcome.ok_bind]
  simp [noClose, noOpen, Char.ofNat_toNat]

theorem readCharacters_of_escape
    {c : Char}
    {written input : List Char}
    (isRead : readEscape (written ++ input) = .ok (c, input))
    (bound : Nat) :
    readCharacters (bound + 1) ('\\' :: written ++ input) =
      (do
        let (others, rest) ← readCharacters bound input
        .ok (c :: others, rest)) := by
  rw [List.cons_append, readCharacters, if_neg (by decide), if_pos rfl, isRead]
  rfl

/-- A character is read back from what stands for it. -/
theorem readCharacters_escape
    (bound : Nat)
    (c : Char)
    (input : List Char) :
    readCharacters (bound + 1) (escape c ++ input) =
      (do
        let (others, rest) ← readCharacters bound input
        .ok (c :: others, rest)) := by
  have ofNat {code : Nat} (isCode : c.toNat = code) : c = Char.ofNat code := by
    rw [← isCode, Char.ofNat_toNat]
  rw [escape]
  split
  · next isQuote =>
      subst isQuote
      exact readCharacters_of_escape rfl bound
  · next noQuote =>
      split
      · next isSlash =>
          subst isSlash
          exact readCharacters_of_escape rfl bound
      · next noSlash =>
          split
          · next isCode => exact readCharacters_of_escape (ofNat isCode ▸ rfl) bound
          split
          · next isCode => exact readCharacters_of_escape (ofNat isCode ▸ rfl) bound
          split
          · next isCode => exact readCharacters_of_escape (ofNat isCode ▸ rfl) bound
          split
          · next isCode => exact readCharacters_of_escape (ofNat isCode ▸ rfl) bound
          split
          · next isCode => exact readCharacters_of_escape (ofNat isCode ▸ rfl) bound
          split
          · next control => exact readCharacters_of_escape (readEscape_escape control input) bound
          · next printable =>
              rw [List.singleton_append, readCharacters, if_neg noQuote, if_neg noSlash,
                if_neg printable]

theorem readCharacters_flatMap_escape
    {bound : Nat}
    {content : List Char}
    (enough : content.length < bound)
    (rest : List Char) :
    readCharacters bound (content.flatMap escape ++ '"' :: rest) = .ok (content, rest) := by
  induction content generalizing bound with
  | nil =>
      rcases Nat.exists_eq_add_one_of_ne_zero (n := bound) (by omega) with ⟨bound, rfl⟩
      rfl
  | cons c content induction =>
      rcases Nat.exists_eq_add_one_of_ne_zero (n := bound) (by omega) with ⟨bound, rfl⟩
      rw [List.flatMap_cons, List.append_assoc, readCharacters_escape,
        induction (by simpa using enough)]
      rfl

theorem length_le_length_flatMap_escape (content : List Char) :
    content.length ≤ (content.flatMap escape).length := by
  induction content with
  | nil => rfl
  | cons c content induction =>
      have positive : 0 < (escape c).length := by
        unfold escape
        repeat' split
        all_goals simp
      rw [List.flatMap_cons, List.length_append, List.length_cons]
      omega

/-- A string is read as it was written. -/
theorem readText_escape (content : String) (rest : List Char) :
    readText (content.toList.flatMap escape ++ '"' :: rest) = .ok (content, rest) := by
  have enough :
      content.toList.length < (content.toList.flatMap escape ++ '"' :: rest).length + 1 := by
    have shorter := length_le_length_flatMap_escape content.toList
    simp only [List.length_append, List.length_cons]
    omega
  rw [readText, readCharacters_flatMap_escape enough, Outcome.ok_bind]
  simp

/-! ## Objects in pieces -/

/-- The text of a member: its name, a colon, and the text of its value. -/
def memberText (piece : String × List Char) : List Char :=
  writeText piece.1.toList ++ ':' :: piece.2

/-- The text of an object whose members are given as text. -/
def objectText (pieces : List (String × List Char)) : List Char :=
  '{' :: separate (pieces.map memberText) ++ ['}']

/-- The text of an array whose elements are given as text. -/
def arrayText (elements : List (List Char)) : List Char :=
  '[' :: separate elements ++ [']']

theorem writeMembers_eq (members : List (String × Json)) :
    writeMembers members =
      (members.map fun member => (member.1, member.2.write)).map memberText := by
  induction members with
  | nil => rfl
  | cons member rest induction => rw [writeMembers, induction]; rfl

theorem write_object (members : List (String × Json)) :
    (object members).write =
      objectText (members.map fun member => (member.1, member.2.write)) := by
  rw [write, writeMembers_eq, objectText]

section Pieces

variable {α : Type} {readMember : α → String → List Char → Except Fault (α × List Char)}

/-- A reader of members gets from one state to another by the texts of some members. -/
inductive Gathers
    (readMember : α → String → List Char → Except Fault (α × List Char)) :
    α → List (String × List Char) → α → Prop where
  | nil (known : α) : Gathers readMember known [] known
  | cons
      {known next last : α}
      {piece : String × List Char}
      {rest : List (String × List Char)}
      (reads :
        ∀ tail, EndsNumber tail →
          ∃ blanks, AreSpaces blanks ∧
            readMember known piece.1 (':' :: piece.2 ++ tail) = .ok (next, blanks ++ tail))
      (others : Gathers readMember next rest last) :
      Gathers readMember known (piece :: rest) last

theorem readMembers_memberText
    {known next : α}
    {piece : String × List Char}
    {tail after : List Char}
    (isRead : readMember known piece.1 (':' :: piece.2 ++ tail) = .ok (next, after))
    (bound : Nat) :
    readMembers readMember (bound + 1) known (memberText piece ++ tail) =
      (match skipSpace after with
      | [] => .error .ended
      | '}' :: rest => .ok (next, rest)
      | ',' :: rest => readMembers readMember bound next (skipSpace rest)
      | _ => .error .malformed) := by
  have text :
      memberText piece ++ tail =
        '"' :: (piece.1.toList.flatMap escape ++ '"' :: (':' :: piece.2 ++ tail)) := by
    simp [memberText, writeText]
  rw [text, readMembers, readText_escape, Outcome.ok_bind]
  dsimp only
  rw [isRead]
  rfl

/-- The text of some members starts with the quotation mark of the first name. -/
theorem skipSpace_separate_memberText
    (piece : String × List Char)
    (rest : List (String × List Char))
    (tail : List Char) :
    skipSpace (separate ((piece :: rest).map memberText) ++ tail) =
      separate ((piece :: rest).map memberText) ++ tail := by
  cases rest <;> rfl

theorem readMembers_pieces
    {known last : α}
    {piece : String × List Char}
    {rest : List (String × List Char)}
    (gathers : Gathers readMember known (piece :: rest) last)
    {bound : Nat}
    (enough : rest.length < bound)
    (tail : List Char) :
    readMembers readMember bound known
        (separate ((piece :: rest).map memberText) ++ '}' :: tail) =
      .ok (last, tail) := by
  induction rest generalizing known piece bound with
  | nil =>
      rcases gathers with _ | ⟨reads, others⟩
      cases others
      rcases Nat.exists_eq_add_one_of_ne_zero (n := bound) (by omega) with ⟨bound, rfl⟩
      rcases reads ('}' :: tail) (endsNumber_brace tail) with ⟨blanks, areSpaces, isRead⟩
      rw [List.map_singleton, separate, readMembers_memberText isRead,
        skipSpace_append_of_areSpaces areSpaces]
      rfl
  | cons second rest induction =>
      rcases gathers with _ | ⟨reads, others⟩
      rcases Nat.exists_eq_add_one_of_ne_zero (n := bound) (by omega) with ⟨bound, rfl⟩
      let after := separate ((second :: rest).map memberText) ++ '}' :: tail
      rcases reads (',' :: after) (endsNumber_comma after) with ⟨blanks, areSpaces, isRead⟩
      have text :
          separate ((piece :: second :: rest).map memberText) ++ '}' :: tail =
            memberText piece ++ ',' :: after := by
        simp [separate, after]
      rw [text, readMembers_memberText isRead, skipSpace_append_of_areSpaces areSpaces]
      show readMembers readMember bound _ (skipSpace after) = _
      rw [skipSpace_separate_memberText]
      exact induction others (by simpa using enough)

theorem length_le_length_separate (pieces : List (String × List Char)) :
    pieces.length ≤ (separate (pieces.map memberText)).length := by
  induction pieces with
  | nil => rfl
  | cons piece rest induction =>
      have nonempty : 1 ≤ (memberText piece).length := by
        simp only [memberText, List.length_append, List.length_cons]
        omega
      cases rest with
      | nil => exact nonempty
      | cons second rest =>
          simp only [List.map_cons, separate, List.length_append, List.length_cons] at induction ⊢
          omega

/-- An object is read member by member. -/
theorem readObject_pieces
    {known last : α}
    {pieces : List (String × List Char)}
    (gathers : Gathers readMember known pieces last)
    (tail : List Char) :
    readObject readMember known (separate (pieces.map memberText) ++ '}' :: tail) =
      .ok (last, tail) := by
  cases pieces with
  | nil =>
      cases gathers
      rfl
  | cons piece rest =>
      have enough := length_le_length_separate (piece :: rest)
      rw [readObject, skipSpace_separate_memberText]
      split
      · next isBrace => cases rest <;> cases isBrace
      · apply readMembers_pieces gathers
        simp only [List.length_append, List.length_cons] at enough ⊢
        omega

end Pieces

/-! ## Texts that spell values -/

/-- Characters are read as a value whatever follows them, up to blanks. -/
def Spells (depth : Nat) (input : List Char) (json : Json) : Prop :=
  ∀ tail, EndsNumber tail →
    ∃ blanks, AreSpaces blanks ∧ readValue depth (input ++ tail) = .ok (json, blanks ++ tail)

namespace Spells

variable {depth : Nat} {input : List Char} {json : Json}

theorem of_readValue
    (read : readValue depth input = .ok (json, []))
    (isScalar : json.IsScalar)
    (other : Nat) :
    Spells other input json := by
  intro tail ends
  exact ⟨[], by simp [AreSpaces], readValue_append read isScalar ends other⟩

/-- A text that is read as a scalar spells it at every depth. -/
theorem of_read
    {text : String}
    (isRead : read text = .ok json)
    (isScalar : json.IsScalar)
    (depth : Nat) :
    Spells depth text.toList json := by
  intro tail ends
  rcases Outcome.bind_eq_ok_iff.mp isRead with ⟨⟨value, blanks⟩, isValue, isLast⟩
  dsimp only at isLast
  split at isLast
  · next skipped =>
      cases isLast
      exact ⟨blanks, areSpaces_of_skipSpace skipped, readValue_append isValue isScalar ends depth⟩
  · contradiction

theorem read_eq (spells : Spells maximalDepth input json) :
    read (String.ofList input) = .ok json := by
  rcases spells [] endsNumber_nil with ⟨blanks, areSpaces, isRead⟩
  simp only [List.append_nil] at isRead
  rw [read, finish, String.toList_ofList, isRead, Outcome.ok_bind]
  simp [skipSpace_of_areSpaces areSpaces]

/-- The members of an object are set one after the other. -/
theorem gathers_members
    {pieces : List (String × List Char)}
    {members : List (String × Json)}
    (spelled :
      List.Forall₂ (fun piece member => piece.1 = member.1 ∧ Spells depth piece.2 member.2)
        pieces members)
    (known : List (String × Json)) :
    Gathers
      (fun known name rest => do
        let rest ← readColon rest
        let (value, rest) ← readValue depth rest
        .ok (setMember name value known, rest))
      known pieces
      (members.foldl (fun known member => setMember member.1 member.2 known) known) := by
  induction spelled generalizing known with
  | nil => exact .nil known
  | cons first _ induction =>
      refine .cons (fun tail ends => ?_) (induction _)
      rcases first with ⟨sameName, spells⟩
      rcases spells tail ends with ⟨blanks, areSpaces, isRead⟩
      refine ⟨blanks, areSpaces, ?_⟩
      rw [sameName, List.cons_append, readColon_cons, Outcome.ok_bind, isRead]
      rfl

/-- An object spells its members if their texts spell their values. -/
theorem object
    {pieces : List (String × List Char)}
    {members : List (String × Json)}
    (spelled :
      List.Forall₂ (fun piece member => piece.1 = member.1 ∧ Spells depth piece.2 member.2)
        pieces members) :
    Spells (depth + 1) (objectText pieces) (.object (setMembers members)) := by
  intro tail ends
  refine ⟨[], by simp [AreSpaces], ?_⟩
  have text :
      objectText pieces ++ tail = '{' :: (separate (pieces.map memberText) ++ '}' :: tail) := by
    simp [objectText]
  rw [text, readValue_object rfl, readObject_pieces (gathers_members spelled [])]
  rfl

theorem single (name : String) (spells : Spells depth input json) :
    Spells (depth + 1) (objectText [(name, input)]) (.object [(name, json)]) := by
  have spelled :
      List.Forall₂ (fun piece member => piece.1 = member.1 ∧ Spells depth piece.2 member.2)
        [(name, input)] [(name, json)] :=
    .cons ⟨rfl, spells⟩ .nil
  exact object spelled

/-- An array spells its element. -/
theorem array (spells : Spells depth input json) :
    Spells (depth + 1) (arrayText [input]) (.array [json]) := by
  intro tail ends
  refine ⟨[], by simp [AreSpaces], ?_⟩
  rcases spells (']' :: tail) (endsNumber_bracket tail) with ⟨blanks, areSpaces, isRead⟩
  have text : arrayText [input] ++ tail = '[' :: (input ++ ']' :: tail) := by
    simp [arrayText, separate]
  have nonempty : ∀ rest, skipSpace (input ++ ']' :: tail) ≠ ']' :: rest := by
    intro rest isBracket
    -- No value starts with a closing bracket.
    have refused : readValue depth (']' :: rest) = .error .malformed := by
      rw [readValue.eq_def]
      rfl
    rw [← readValue_skipSpace, isBracket, refused] at isRead
    contradiction
  rw [text, readValue_array rfl nonempty, readElements, readValue_skipSpace, isRead,
    Outcome.ok_bind]
  simp only [skipSpace_append_of_areSpaces areSpaces]
  rfl

end Spells

end RecordStore.Json
