import RecordStore.Identifier.Grammar
import RecordStore.Proofs.Identifier
import RecordStore.Proofs.Text
import RecordStore.Proofs.Text.Utf8

/-!
# Identifiers are exactly the safe names

Small letters become capitals in the bytes of a text as they do in its
characters, and bytes stand in the order of characters.  So a search that
compares bytes turns the same way at every entry as one that compares texts,
and finds the same reserved words.  An accepted name has only ASCII characters,
and therefore no more bytes than characters.

Main statement: `Identifier.accepts_exactly_safe_names`.
-/

namespace RecordStore

namespace Keyword

open String (utf8EncodeChar)

/-! ## Capitals in bytes -/

theorem utf8EncodeChar_toUpper_of_isLower
    {c : Char}
    (isSmall : c.isLower = true) :
    utf8EncodeChar c.toUpper = (utf8EncodeChar c).map upperByte := by
  have code := (Text.isLower_iff_code c).mp isSmall
  have upperCode : c.toUpper.val.toNat = c.val.toNat - 32 := by
    have isBetween : c.val ≥ 'a'.val ∧ c.val ≤ 'z'.val := code
    have changed : c.toUpper = _ := dif_pos isBetween
    rw [changed]
    show (c.val + _).toNat = _
    rw [UInt32.toNat_add]
    -- The difference of the letters is a word that wraps around.
    show (c.val.toNat + 4294967264) % 2 ^ 32 = _
    omega
  have encode_of_ascii {d : Char} (isAscii : d.val.toNat ≤ 127) :
      utf8EncodeChar d = [UInt8.ofNat d.val.toNat] :=
    if_pos isAscii
  have changes : upperByte (UInt8.ofNat c.val.toNat) = UInt8.ofNat c.val.toNat - 32 := by
    apply if_pos
    rw [UInt8.toNat_ofNat']
    omega
  rw [encode_of_ascii (by omega), encode_of_ascii (by omega), upperCode, List.map_singleton,
    changes, UInt8.ofNat_sub (by omega)]
  rfl

/-- Only small letters have bytes that change: the bytes of characters beyond ASCII are higher. -/
theorem upperByte_of_mem
    {c : Char}
    (noSmall : c.isLower = false)
    {byte : UInt8}
    (member : byte ∈ utf8EncodeChar c) :
    upperByte byte = byte := by
  rw [← Bool.not_eq_true, Text.isLower_iff_code] at noSmall
  have bound := Utf8.code_lt c
  apply if_neg
  simp only [utf8EncodeChar] at member
  split_ifs at member <;>
    simp only [List.mem_cons, List.not_mem_nil, or_false, ← UInt8.toNat_inj,
      UInt8.toNat_ofNat'] at member <;>
    omega

theorem utf8EncodeChar_toUpper (c : Char) :
    utf8EncodeChar c.toUpper = (utf8EncodeChar c).map upperByte := by
  cases isSmall : c.isLower with
  | true => exact utf8EncodeChar_toUpper_of_isLower isSmall
  | false =>
      have sameBytes : ∀ byte ∈ utf8EncodeChar c, upperByte byte = id byte :=
        fun _ member => upperByte_of_mem isSmall member
      have sameChar : c.toUpper = c := by
        rw [← Bool.not_eq_true, Text.isLower_iff_code] at isSmall
        exact dif_neg isSmall
      rw [sameChar, List.map_congr_left sameBytes, List.map_id]

theorem encode_upper (text : String) :
    Utf8.encode (Text.upper text) = (Utf8.encode text).map upperByte := by
  rw [Utf8.encode_eq_flatMap, Utf8.encode_eq_flatMap, Text.upper, String.toList_ofList,
    List.flatMap_map, List.map_flatMap]
  exact congrArg text.toList.flatMap (funext utf8EncodeChar_toUpper)

/-! ## The search by bytes -/

/-- The order by bytes tells of an entry what the search by texts asks. -/
theorem byteOrder_eq (word entry : String) :
    byteOrder word entry =
      if Text.upper word = entry then .eq
      else if Text.upper word < entry then .gt
      else .lt := by
  rw [byteOrder, ← encode_upper, Utf8.compare_encode, Std.OrientedOrd.eq_swap]
  change (compareOfLessAndEq (Text.upper word) entry).swap = _
  unfold compareOfLessAndEq
  split_ifs with below same
  · rw [same] at below
    exact absurd below (String.lt_irrefl entry)
  all_goals rfl

theorem byteOrder_eq_eq_iff (word entry : String) :
    byteOrder word entry = .eq ↔ Text.upper word = entry := by
  rw [byteOrder_eq]
  split_ifs with same below <;> simp [same]

/-- Both searches turn the same way at every entry, in whatever order the entries stand. -/
theorem searchBy_byteOrder
    (entries : Array String)
    (word : String)
    (low high : Nat)
    (bounded : high ≤ entries.size) :
    searchBy (byteOrder word) entries low high bounded =
      searchBetween entries (Text.upper word) low high bounded := by
  -- What the texts of the word and the middle entry say fixes what the order says of the entry.
  fun_induction searchBetween entries (Text.upper word) low high bounded with
  | case1 low high bounded nonempty middle inside entry found =>
      rw [searchBy, dif_pos nonempty]
      simp only [byteOrder_eq]
      rw [if_pos found]
  | case2 low high bounded nonempty middle inside entry missed below induction =>
      rw [searchBy, dif_pos nonempty]
      simp only [byteOrder_eq]
      rw [if_neg missed, if_pos below]
      exact induction
  | case3 low high bounded nonempty middle inside entry missed notBelow induction =>
      rw [searchBy, dif_pos nonempty]
      simp only [byteOrder_eq]
      rw [if_neg missed, if_neg notBelow]
      exact induction
  | case4 low high bounded empty => rw [searchBy, dif_neg empty]

theorem any_byteOrder (word : String) :
    (table.any fun entry => byteOrder word entry == .eq) = isReserved word := by
  rw [Bool.eq_iff_iff, isReserved_iff, Array.any_eq_true']
  simp [byteOrder_eq_eq_iff]

end Keyword

namespace Identifier

/-! ## Characters of identifiers -/

theorem isAlpha_iff (c : Char) : c.isAlpha = true ↔ IsLetter c :=
  Text.isAlpha_iff_code c

theorem isDigit_iff (c : Char) : c.isDigit = true ↔ IsDigit c := by
  simp [Char.isDigit, IsDigit, Char.le_def]

theorem isStart_iff (c : Char) : isStart c = true ↔ IsLetter c ∨ c = '_' := by
  rw [isStart, Bool.or_eq_true, isAlpha_iff, beq_iff_eq]

theorem isContinuation_iff (c : Char) :
    isContinuation c = true ↔ IsLetter c ∨ IsDigit c ∨ c = '_' := by
  rw [isContinuation, Char.isAlphanum, Bool.or_eq_true, Bool.or_eq_true, isAlpha_iff, isDigit_iff,
    beq_iff_eq, or_assoc]

/-- The characters of identifiers belong to ASCII. -/
theorem isAscii_of_isContinuation
    {c : Char}
    (continues : isContinuation c = true) :
    c.toNat < 128 := by
  rcases (isContinuation_iff c).mp continues with (⟨-, last⟩ | ⟨-, last⟩) | ⟨-, last⟩ | rfl
  · exact Nat.lt_of_le_of_lt last (by decide)
  · exact Nat.lt_of_le_of_lt last (by decide)
  · exact Nat.lt_of_le_of_lt last (by decide)
  · decide

/-! ## Names -/

theorem isSafe_of_check
    {name : String}
    (isIdentifier : check name = .ok ()) :
    IsSafe name := by
  have isAscii : ∀ c ∈ name.toList, c.toNat < 128 := by
    intro c member
    exact isAscii_of_isContinuation (isContinuation_of_mem isIdentifier member)
  rcases (check_eq_ok_iff name).mp isIdentifier with
    ⟨first, rest, spelled, isShort, starts, continues, isFree⟩
  refine ⟨?_, ?_, ?_, ?_, ?_⟩
  · rw [← String.length_toList, spelled]
    exact Nat.succ_pos rest.length
  · rwa [← Utf8.utf8ByteSize_eq_length isAscii]
  · rw [spelled]
    rintro c ⟨⟩
    exact (isStart_iff first).mp starts
  · rw [spelled]
    intro c member
    exact (isContinuation_iff c).mp (continues c member)
  · rw [← Keyword.isReserved_iff, isFree]
    decide

theorem check_of_isSafe
    {name : String}
    (isSafe : IsSafe name) :
    check name = .ok () := by
  have hasCharacter : name.toList ≠ [] := by
    intro isEmpty
    have isPositive := isSafe.hasCharacter
    rw [← String.length_toList, isEmpty] at isPositive
    contradiction
  rcases List.exists_cons_of_ne_nil hasCharacter with ⟨first, rest, spelled⟩
  have starts : isStart first = true := by
    apply (isStart_iff first).mpr
    exact isSafe.starts first (by rw [spelled]; rfl)
  have continues : ∀ c ∈ rest, isContinuation c = true := by
    intro c member
    apply (isContinuation_iff c).mpr
    exact isSafe.continues c (by rwa [spelled])
  have isAscii : ∀ c ∈ name.toList, c.toNat < 128 := by
    rw [spelled, List.forall_mem_cons]
    exact ⟨isAscii_of_isContinuation (isContinuation_of_isStart starts),
      fun c member => isAscii_of_isContinuation (continues c member)⟩
  apply (check_eq_ok_iff name).mpr
  refine ⟨first, rest, spelled, ?_, starts, continues, ?_⟩
  · rw [Utf8.utf8ByteSize_eq_length isAscii]
    exact isSafe.isShort
  · rw [← Bool.not_eq_true, Keyword.isReserved_iff]
    exact isSafe.isFree

/--
A word is reserved exactly when the table lists it in capitals, and looking for
its bytes, by halving or through all entries, finds just the reserved words.
The identifiers are exactly the safe names.
-/
theorem accepts_exactly_safe_names (name : String) :
    (Keyword.isReserved name = true ↔ Text.upper name ∈ Keyword.table) ∧
      Keyword.searchBy (Keyword.byteOrder name) Keyword.table 0 Keyword.table.size
          (Nat.le_refl _) =
        Keyword.isReserved name ∧
      (Keyword.table.any fun entry => Keyword.byteOrder name entry == .eq) =
        Keyword.isReserved name ∧
      (check name = .ok () ↔ IsSafe name) :=
  ⟨Keyword.isReserved_iff name, Keyword.searchBy_byteOrder _ _ _ _ _, Keyword.any_byteOrder name,
    isSafe_of_check, check_of_isSafe⟩

end Identifier

end RecordStore
