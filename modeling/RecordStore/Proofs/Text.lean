import Mathlib.Data.List.TakeWhile
import RecordStore.Text.Blank

/-!
# Letters, blanks and pieces

Letters are told by their codes.  Trimming a text leaves what stands between
its blanks, and pieces that were joined with a separator are split again.
-/

namespace RecordStore.Text

/-! ## Letters -/

theorem isUpper_iff_code (c : Char) :
    c.isUpper = true ↔ 65 ≤ c.val.toNat ∧ c.val.toNat ≤ 90 :=
  decide_eq_true_iff

theorem isLower_iff_code (c : Char) :
    c.isLower = true ↔ 97 ≤ c.val.toNat ∧ c.val.toNat ≤ 122 :=
  Bool.and_eq_true_iff.trans (and_congr decide_eq_true_iff decide_eq_true_iff)

theorem isAlpha_iff_code (c : Char) :
    c.isAlpha = true ↔
      (65 ≤ c.val.toNat ∧ c.val.toNat ≤ 90) ∨ 97 ≤ c.val.toNat ∧ c.val.toNat ≤ 122 :=
  Bool.or_eq_true_iff.trans (or_congr (isUpper_iff_code c) (isLower_iff_code c))

/-! ## Blanks -/

/-- All of the characters are blanks. -/
def AreBlanks (chars : List Char) : Prop :=
  ∀ c ∈ chars, isBlank c = true

/-- None of the characters is a blank. -/
def HaveNoBlank (chars : List Char) : Prop :=
  ∀ c ∈ chars, isBlank c = false

theorem haveNoBlank_iff {chars : List Char} :
    HaveNoBlank chars ↔ chars.all (fun c => !isBlank c) = true := by
  simp [HaveNoBlank]

instance (chars : List Char) : Decidable (HaveNoBlank chars) :=
  decidable_of_iff _ haveNoBlank_iff.symm

theorem dropWhile_isBlank_append
    {blanks rest : List Char}
    (areBlanks : AreBlanks blanks)
    (haveNoBlank : HaveNoBlank rest) :
    (blanks ++ rest).dropWhile isBlank = rest := by
  rw [List.dropWhile_append_of_pos areBlanks]
  cases rest with
  | nil => rfl
  | cons c others =>
      exact List.dropWhile_cons_of_neg (by rw [haveNoBlank c List.mem_cons_self]; decide)

/-- The blanks at the two ends are dropped. -/
theorem trim_padded
    {before core after : List Char}
    (areBefore : AreBlanks before)
    (haveNoBlank : HaveNoBlank core)
    (areAfter : AreBlanks after) :
    trim (String.ofList (before ++ core ++ after)) = String.ofList core := by
  have fromBehind : AreBlanks after.reverse :=
    fun c member => areAfter c (List.mem_reverse.mp member)
  have coreReversed : HaveNoBlank core.reverse :=
    fun c member => haveNoBlank c (List.mem_reverse.mp member)
  rw [trim, String.toList_ofList, List.append_assoc, List.dropWhile_append_of_pos areBefore]
  cases core with
  | nil =>
      have dropped : ([] ++ after).dropWhile isBlank = [] := List.dropWhile_eq_nil_iff.mpr areAfter
      rw [dropped]
      rfl
  | cons c others =>
      have isKept : (c :: others ++ after).dropWhile isBlank = c :: others ++ after :=
        List.dropWhile_cons_of_neg (by rw [haveNoBlank c List.mem_cons_self]; decide)
      rw [isKept, List.reverse_append, dropWhile_isBlank_append fromBehind coreReversed,
        List.reverse_reverse]

theorem trim_of_haveNoBlank
    {text : String}
    (haveNoBlank : HaveNoBlank text.toList) :
    trim text = text := by
  have noBlanks : AreBlanks [] := fun _ member => absurd member List.not_mem_nil
  have trimmed := trim_padded noBlanks haveNoBlank noBlanks
  rwa [List.nil_append, List.append_nil, String.ofList_toList] at trimmed

/-! ## Pieces -/

section Pieces

variable {separator : Char} {piece : List Char}

/-- A piece is split off before the first separator. -/
theorem splitAt_append
    (isPiece : separator ∉ piece)
    (rest : List Char) :
    splitAt separator (piece ++ separator :: rest) = piece :: splitAt separator rest := by
  induction piece with
  | nil => rw [List.nil_append, splitAt, if_pos rfl]
  | cons c others induction =>
      rw [List.mem_cons, not_or] at isPiece
      rw [List.cons_append, splitAt, if_neg (Ne.symm isPiece.1), induction isPiece.2]

end Pieces

end RecordStore.Text
