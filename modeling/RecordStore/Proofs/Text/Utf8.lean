import Mathlib.Tactic.SplitIfs
import RecordStore.Text.Utf8

/-!
# The order of bytes

The bytes of a text are those of its characters, one after another.  Lower
characters have lower bytes, and the bytes of one character never begin those
of another.  So texts stand in the same order by their bytes as by their
characters, and a search that compares bytes goes the way of one that compares
texts.

Main statement: `Utf8.compare_encode`.
-/

namespace RecordStore.Utf8

open String (utf8EncodeChar)

theorem encode_eq_flatMap (text : String) :
    encode text = text.toList.flatMap utf8EncodeChar := by
  rw [encode, ← String.utf8Encode_toList, List.utf8Encode, List.toList_data_toByteArray]

/-- A text of ASCII characters has as many bytes as characters. -/
theorem utf8ByteSize_eq_length
    {text : String}
    (isAscii : ∀ c ∈ text.toList, c.toNat < 128) :
    text.utf8ByteSize = text.length := by
  have single : ∀ c ∈ text.toList, (utf8EncodeChar c).length = 1 := by
    intro c member
    rw [String.length_utf8EncodeChar, Char.utf8Size_eq_one_iff, UInt32.le_iff_toNat_le]
    exact Nat.le_of_lt_succ (isAscii c member)
  calc
    text.utf8ByteSize = (encode text).length := rfl
    _ = (text.toList.map fun c => (utf8EncodeChar c).length).sum := by
      rw [encode_eq_flatMap, List.length_flatMap]
    _ = (text.toList.map fun _ => 1).sum := by rw [List.map_congr_left single]
    _ = text.length := by
      rw [List.map_const', List.sum_replicate_nat, Nat.mul_one, String.length_toList]

/-! ## Characters -/

theorem code_lt (c : Char) : c.val.toNat < 0x110000 := by
  have isValid := c.valid
  simp only [UInt32.isValidChar, Nat.isValidChar] at isValid
  omega

/-- The bytes of a lower character stand below those of a higher one, whatever follows them. -/
theorem compare_utf8EncodeChar_of_lt
    {low high : Char}
    (below : low < high)
    (afterLow afterHigh : List UInt8) :
    compare (utf8EncodeChar low ++ afterLow) (utf8EncodeChar high ++ afterHigh) = .lt := by
  have codes : low.val.toNat < high.val.toNat := below
  have bound := code_lt high
  simp only [utf8EncodeChar]
  -- One case for each two numbers of bytes.  Different numbers show in the first bytes;
  -- otherwise the bytes are digits of the codes, and the first ones that differ decide.
  split_ifs <;>
    simp only [List.cons_append, List.nil_append, List.compare_cons_cons, Ordering.then_eq_lt,
      Std.compare_eq_lt, Std.compare_eq_iff_eq, UInt8.lt_iff_toNat_lt, ← UInt8.toNat_inj,
      UInt8.toNat_ofNat'] <;>
    simp (disch := omega) only [Nat.mod_eq_of_lt] <;>
    omega

/-! ## Texts -/

theorem compare_append (common left right : List UInt8) :
    compare (common ++ left) (common ++ right) = compare left right := by
  induction common with
  | nil => rfl
  | cons byte rest induction =>
      rw [List.cons_append, List.cons_append, List.compare_cons_cons, Std.ReflOrd.compare_self,
        induction, Ordering.then]

theorem compare_flatMap_of_lt
    {left right : List Char}
    (below : left < right) :
    compare (left.flatMap utf8EncodeChar) (right.flatMap utf8EncodeChar) = .lt := by
  induction below with
  | @nil c rest =>
      rcases List.exists_cons_of_ne_nil (String.utf8EncodeChar_ne_nil (c := c)) with
        ⟨byte, bytes, spelled⟩
      rw [List.flatMap_nil, List.flatMap_cons, spelled, List.cons_append, List.compare_nil_cons]
  | rel below =>
      rw [List.flatMap_cons, List.flatMap_cons]
      exact compare_utf8EncodeChar_of_lt below _ _
  | cons _ induction =>
      rw [List.flatMap_cons, List.flatMap_cons, compare_append]
      exact induction

theorem compare_encode_of_lt
    {left right : String}
    (below : left < right) :
    compare (encode left) (encode right) = .lt := by
  rw [encode_eq_flatMap, encode_eq_flatMap]
  exact compare_flatMap_of_lt (String.lt_iff.mp below)

/-- Texts stand in the same order by their bytes as by their characters. -/
theorem compare_encode (left right : String) :
    compare (encode left) (encode right) = compare left right := by
  cases order : compare left right with
  | lt => exact compare_encode_of_lt (compareOfLessAndEq_eq_lt.mp order)
  | eq => rw [Std.LawfulEqOrd.eq_of_compare order, Std.ReflOrd.compare_self]
  | gt =>
      have reversed : compare right left = .lt := Std.OrientedCmp.gt_iff_lt.mp order
      apply Std.OrientedCmp.gt_iff_lt.mpr
      exact compare_encode_of_lt (compareOfLessAndEq_eq_lt.mp reversed)

end RecordStore.Utf8
