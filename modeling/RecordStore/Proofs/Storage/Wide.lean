import Mathlib.Data.List.ProdSigma
import RecordStore.Proofs.Storage.Created

/-!
# Tables as wide as can be

A table may have as many columns as a result, and the row id takes one column
of a result.  So the widest tables can be created, written and counted, and
none of their rows can be read.  There are names enough for such a table: an
underscore, a letter and two digits.

Main statement: `creates_wide`.
-/

namespace RecordStore

namespace Wide

/-- The letters in the names. -/
def letters : List Char := "abcdefghijklmnopqrst".toList

/-- The digits in the names. -/
def digits : List Char := "0123456789".toList

/-- The name with a letter and two digits. -/
def name (characters : Char × Char × Char) : String :=
  String.ofList ['_', characters.1, characters.2.1, characters.2.2]

/-- As many names as a table can have columns. -/
def names : List String :=
  (letters ×ˢ (digits ×ˢ digits)).map name

/-- A character of a name after the underscore. -/
structure IsMark (c : Char) : Prop where
  continues : Identifier.isContinuation c = true
  lower : c.toLower = c

theorem isMark_of_all
    {chars : List Char}
    (areMarks : (chars.all fun c => Identifier.isContinuation c && c.toLower == c) = true) :
    ∀ c ∈ chars, IsMark c := by
  intro c member
  have isMark := List.all_eq_true.mp areMarks c member
  rw [Bool.and_eq_true, beq_iff_eq] at isMark
  exact ⟨isMark.1, isMark.2⟩

theorem isMark_of_mem_letters : ∀ c ∈ letters, IsMark c :=
  isMark_of_all (by decide)

theorem isMark_of_mem_digits : ∀ c ∈ digits, IsMark c :=
  isMark_of_all (by decide)

theorem exists_of_mem_names
    {field : String}
    (member : field ∈ names) :
    ∃ a b c, IsMark a ∧ IsMark b ∧ IsMark c ∧ field = String.ofList ['_', a, b, c] := by
  rcases List.mem_map.mp member with ⟨⟨a, b, c⟩, isProduct, rfl⟩
  simp only [List.mem_product] at isProduct
  exact
    ⟨a, b, c, isMark_of_mem_letters a isProduct.1, isMark_of_mem_digits b isProduct.2.1,
      isMark_of_mem_digits c isProduct.2.2, rfl⟩

theorem length_names : names.length = Database.maximalColumns := by
  rw [names, List.length_map, List.length_product, List.length_product]
  decide

theorem nodup_names : names.Nodup := by
  have someLetters : letters.Nodup := by decide
  have someDigits : digits.Nodup := by decide
  apply List.Nodup.map ?_ (someLetters.product (someDigits.product someDigits))
  rintro ⟨a, b, c⟩ ⟨d, e, f⟩ same
  simpa [name] using same

theorem check_name
    {a b c : Char}
    (isFirst : IsMark a)
    (isSecond : IsMark b)
    (isThird : IsMark c) :
    Identifier.check (String.ofList ['_', a, b, c]) = .ok () := by
  apply (Identifier.check_eq_ok_iff _).mpr
  refine ⟨'_', [a, b, c], String.toList_ofList, ?_, by decide, ?_, ?_⟩
  · have first := a.utf8Size_le_four
    have second := b.utf8Size_le_four
    have third := c.utf8Size_le_four
    have underscore := Char.utf8Size_le_four '_'
    simp only [String.ofList_cons, String.ofList_nil, String.utf8ByteSize_append,
      String.utf8ByteSize_singleton, String.utf8ByteSize_empty, Identifier.maximalLength]
    omega
  · intro character member
    simp only [List.mem_cons, List.not_mem_nil, or_false] at member
    rcases member with rfl | rfl | rfl
    · exact isFirst.continues
    · exact isSecond.continues
    · exact isThird.continues
  · exact Keyword.isReserved_underscore [a, b, c]

theorem length_lower (text : String) : (Text.lower text).length = text.length := by
  rw [Text.lower, String.length_ofList, List.length_map]
  rfl

theorem sameName_of_length_ne
    {left right : String}
    (differ : left.length ≠ right.length) :
    Text.sameName left right = false := by
  apply beq_eq_false_iff_ne.mpr
  intro same
  apply differ
  rw [← length_lower left, same, length_lower]

theorem isRowIdAlias_name (a b c : Char) :
    Field.isRowIdAlias (String.ofList ['_', a, b, c]) = false := by
  apply List.any_eq_false.mpr
  intro known member
  have lengths : ∀ known ∈ Field.rowIdAliases, 4 ≠ known.length := by decide
  rw [sameName_of_length_ne]
  · exact Bool.false_ne_true
  · rw [String.length_ofList]
    exact lengths known member

theorem lower_name
    {a b c : Char}
    (isFirst : IsMark a)
    (isSecond : IsMark b)
    (isThird : IsMark c) :
    Text.lower (String.ofList ['_', a, b, c]) = String.ofList ['_', a, b, c] := by
  rw [Text.lower, String.toList_ofList]
  simp only [List.map_cons, List.map_nil, isFirst.lower, isSecond.lower, isThird.lower]
  rfl

theorem areIdentifiers_names : ∀ name ∈ names, Identifier.check name = .ok () := by
  intro field member
  rcases exists_of_mem_names member with ⟨a, b, c, isFirst, isSecond, isThird, rfl⟩
  exact check_name isFirst isSecond isThird

/-- A schema with all of the names. -/
def schema : Schema :=
  ⟨names, areIdentifiers_names⟩

theorem ofNames_names : Schema.ofNames names = .ok schema := by
  have noIdentity : ∀ field ∈ names, field ≠ Field.identityName := by
    intro field member same
    rcases exists_of_mem_names member with ⟨a, b, c, _, _, _, rfl⟩
    have lengths : 4 = Field.identityName.length := by
      rw [← same, String.length_ofList]
      rfl
    exact absurd lengths (by decide)
  have nonempty : names ≠ [] := List.ne_nil_of_mem (List.mem_of_getElem? (i := 0) rfl)
  refine Schema.ofNames_eq_ok_iff.mpr ⟨⟨areIdentifiers_names, ?_, nodup_names, ?_⟩, nonempty, ?_⟩
  · intro field member
    rcases exists_of_mem_names member with ⟨a, b, c, _, _, _, rfl⟩
    exact isRowIdAlias_name a b c
  · exact fun _ _ => List.not_mem_nil
  · exact (List.filter_eq_self.mpr fun field member => by simpa using noIdentity field member).symm

theorem checkColumns_names : Database.checkColumns "t" [] names = .ok () := by
  apply (Database.checkColumns_eq_ok_iff "t" (Nat.zero_le _) names).mpr
  refine ⟨?_, ?_, fun _ _ _ member => absurd member List.not_mem_nil⟩
  · rw [List.length_nil, Nat.zero_add, length_names]
  · apply List.Pairwise.imp_of_mem ?_ nodup_names
    intro earlier later isEarlier isLater differ
    rcases exists_of_mem_names isEarlier with ⟨a, b, c, isFirst, isSecond, isThird, rfl⟩
    rcases exists_of_mem_names isLater with ⟨d, e, f, isFourth, isFifth, isSixth, rfl⟩
    rw [Text.sameName, lower_name isFirst isSecond isThird, lower_name isFourth isFifth isSixth]
    exact beq_eq_false_iff_ne.mpr differ

/-- There is a session whose table is as wide as can be. -/
theorem creates_wide : (Session.inMemory schema .manual).Creates :=
  Session.creates_inMemory ofNames_names checkColumns_names .manual

end Wide

end RecordStore
