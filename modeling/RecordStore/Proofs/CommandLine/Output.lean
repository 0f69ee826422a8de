import RecordStore.CommandLine.Run
import RecordStore.Proofs.Json
import RecordStore.Proofs.Pointwise
import RecordStore.Proofs.Record.Writer
import RecordStore.Proofs.Text

/-!
# Lines of output

The text of a JSON value is a line: line feeds in strings are escaped, and no
others are written.  So the lines with records fall apart again into the
texts of the records, and these are read as the records.

Main statement: `CommandLine.readRecords_filledLines`.
-/

namespace RecordStore

/-- The characters have no line feed among them. -/
def Text.IsLine (characters : List Char) : Prop :=
  '\n' ∉ characters

namespace Text

variable {first second : List Char}

@[simp]
theorem isLine_nil : IsLine [] :=
  List.not_mem_nil

@[simp]
theorem isLine_cons_iff {c : Char} : IsLine (c :: first) ↔ c ≠ '\n' ∧ IsLine first := by
  rw [IsLine, List.mem_cons, not_or, ne_comm, IsLine]

@[simp]
theorem isLine_append_iff : IsLine (first ++ second) ↔ IsLine first ∧ IsLine second := by
  rw [IsLine, List.mem_append, not_or, IsLine, IsLine]

theorem IsLine.of_subset (isLine : IsLine second) (isSubset : first ⊆ second) : IsLine first :=
  fun member => isLine (isSubset member)

end Text

/-! ## Texts of JSON values -/

namespace Json

open Text (IsLine isLine_append_iff)

theorem AreDigits.isLine {characters : List Char} (areDigits : AreDigits characters) :
    IsLine characters :=
  fun member => absurd (areDigits '\n' member) (by decide)

theorem isLine_escape (c : Char) : IsLine (escape c) := by
  have hexDigits : ∀ number < 32, IsLine [hexDigit (number / 16), hexDigit (number % 16)] := by
    unfold IsLine
    decide
  have areHex := hexDigits c.toNat
  have noFeed : c.toNat ≠ 10 → c ≠ '\n' := by
    rintro other rfl
    exact other rfl
  rw [escape]
  split_ifs <;> simp_all

theorem isLine_writeText (content : List Char) : IsLine (writeText content) := by
  have areLines : IsLine (content.flatMap escape) := by
    intro member
    rcases List.mem_flatMap.mp member with ⟨c, _, isFeed⟩
    exact isLine_escape c isFeed
  simp [writeText, areLines]

theorem isLine_writeInteger (number : Int) : IsLine (writeInteger number) := by
  cases number with
  | ofNat magnitude => exact (areDigits_toDigits magnitude).isLine
  | negSucc magnitude => simp [writeInteger, (areDigits_toDigits (magnitude + 1)).isLine]

theorem isLine_writeDecimal (decimal : Decimal) : IsLine (writeDecimal decimal) := by
  have areDigits : IsLine (significantDigits decimal.digits) := by
    rcases exists_significantDigits decimal.digits with ⟨count, isAll⟩
    refine (areDigits_toDigits decimal.digits).isLine.of_subset ?_
    rw [isAll]
    exact List.subset_append_left _ _
  have areZeros (count : Nat) := (areDigits_replicate count).isLine
  have areFirst (count : Nat) := areDigits.of_subset (List.take_subset count _)
  have areLast (count : Nat) := areDigits.of_subset (List.drop_subset count _)
  have isTail := areDigits.of_subset (List.tail_sublist _).subset
  simp only [writeDecimal]
  generalize decimal.exponent + _ - 1 = leading
  rw [show ((Nat.toDigits 10 decimal.digits).reverse.dropWhile (· == '0')).reverse =
    significantDigits decimal.digits from rfl]
  split
  · cases leading with
    | ofNat power =>
        simp only [writePlain]
        split <;> simp [areZeros, areFirst, areLast]
    | negSucc power => simp [writePlain, areZeros, areDigits]
  · simp only [writeScientific]
    split <;> split <;> simp [areFirst, isTail, isLine_writeInteger]

theorem isLine_writeReal (number : Double) : IsLine (writeReal number) := by
  simp only [writeReal]
  split_ifs <;> simp [isLine_writeDecimal]

theorem writeElements_eq (elements : List Json) : writeElements elements = elements.map write := by
  induction elements with
  | nil => rfl
  | cons element rest induction => rw [writeElements, induction, List.map_cons]

theorem isLine_separate
    {pieces : List (List Char)}
    (areLines : ∀ piece ∈ pieces, IsLine piece) :
    IsLine (separate pieces) := by
  induction pieces with
  | nil => simp [separate]
  | cons piece rest induction =>
      have isFirst := areLines piece List.mem_cons_self
      have areOthers := induction fun other member => areLines other (List.mem_cons_of_mem _ member)
      cases rest with
      | nil => exact isFirst
      | cons next others => simpa [separate, isFirst] using areOthers

/-- The text of a value is a line. -/
theorem isLine_write (json : Json) : IsLine json.write := by
  induction json using containerInduction with
  | null => simp [write]
  | boolean flag => cases flag <;> simp [write]
  | integer number => exact isLine_writeInteger number
  | real number => exact isLine_writeReal number
  | text content => exact isLine_writeText content.toList
  | array elements areLines =>
      have isLine : IsLine (separate (writeElements elements)) := by
        apply isLine_separate
        rw [writeElements_eq]
        intro piece member
        rcases List.mem_map.mp member with ⟨element, isElement, rfl⟩
        exact areLines element isElement
      simp [write, isLine]
  | object members areLines =>
      have isLine : IsLine (separate (writeMembers members)) := by
        apply isLine_separate
        rw [writeMembers_eq]
        intro piece member
        rcases List.mem_map.mp member with ⟨_, isPiece, rfl⟩
        rcases List.mem_map.mp isPiece with ⟨entry, isEntry, rfl⟩
        simpa [memberText, isLine_writeText] using areLines entry isEntry
      simp [write, isLine]

end Json

/-! ## Lines that are split -/

namespace Text

/-- Lines that are all ended are split off, and nothing is left after the last one. -/
theorem splitAt_flatMap
    {lines : List (List Char)}
    (areLines : ∀ line ∈ lines, IsLine line) :
    splitAt '\n' (lines.flatMap fun line => line ++ ['\n']) = lines ++ [[]] := by
  induction lines with
  | nil => rfl
  | cons first rest induction =>
      rw [List.flatMap_cons, List.append_assoc, List.singleton_append,
        splitAt_append (areLines first List.mem_cons_self),
        induction fun line member => areLines line (List.mem_cons_of_mem first member)]
      rfl

/-- Something is left of a text that starts with a character other than a blank. -/
theorem isEmpty_trim_eq_false
    {text : String}
    {c : Char}
    {rest : List Char}
    (isText : text.toList = c :: rest)
    (notBlank : isBlank c = false) :
    (trim text).isEmpty = false := by
  have isKept : (c :: rest).dropWhile isBlank = c :: rest :=
    List.dropWhile_cons_of_neg (by rw [notBlank]; decide)
  have nonempty : (c :: rest).reverse.dropWhile isBlank ≠ [] := by
    intro isNil
    have isBlank := List.dropWhile_eq_nil_iff.mp isNil c (by simp)
    rw [notBlank] at isBlank
    contradiction
  rw [trim, isText, isKept]
  simpa using nonempty

end Text

namespace CommandLine

theorem filledLines_join
    {texts : List String}
    (areLines : ∀ text ∈ texts, Text.IsLine text.toList ∧ (Text.trim text).isEmpty = false) :
    filledLines (String.join (texts.map line)) = texts := by
  have isJoined :
      (String.join (texts.map line)).toList =
        (texts.map String.toList).flatMap fun line => line ++ ['\n'] := by
    rw [String.toList_join, List.flatMap_map, List.flatMap_map]
    simp [line]
  have areSplit :
      Text.splitAt '\n' (String.join (texts.map line)).toList =
        texts.map String.toList ++ [[]] := by
    rw [isJoined]
    apply Text.splitAt_flatMap
    intro characters member
    rcases List.mem_map.mp member with ⟨text, isText, rfl⟩
    exact (areLines text isText).1
  have areTexts : (texts.map String.toList).map String.ofList = texts := by
    simp [Function.comp_def]
  have areFilled : texts.filter (fun line => !(Text.trim line).isEmpty) = texts := by
    rw [List.filter_eq_self]
    intro text member
    rw [(areLines text member).2]
    rfl
  have noRest : [""].filter (fun line => !(Text.trim line).isEmpty) = [] := by decide
  rw [filledLines, areSplit]
  simp only [List.map_append, areTexts, List.filter_append, areFilled]
  exact (congrArg (texts ++ ·) noRest).trans (List.append_nil texts)

/-- The lines with records are read as the records. -/
theorem readRecords_filledLines
    {records : List Record}
    (areWritable : ∀ record ∈ records, record.IsWritable) :
    readRecords (filledLines (String.join (records.map fun record => line record.toText))) =
      .ok records := by
  have areLines :
      ∀ text ∈ records.map Record.toText,
        Text.IsLine text.toList ∧ (Text.trim text).isEmpty = false := by
    intro text member
    rcases List.mem_map.mp member with ⟨record, _, rfl⟩
    constructor
    · rw [Record.toText, Json.toText, String.toList_ofList]
      exact Json.isLine_write record.toJson
    · have isText : ∃ rest, record.toText.toList = '\x7b' :: rest := by
        rw [Record.toText_eq, String.toList_ofList]
        exact ⟨_, rfl⟩
      rcases isText with ⟨rest, isText⟩
      exact Text.isEmpty_trim_eq_false isText (by decide)
  have areTexts :
      records.map (fun record => line record.toText) = (records.map Record.toText).map line := by
    rw [List.map_map]
    rfl
  rw [areTexts, filledLines_join areLines, readRecords, Pointwise.mapM_eq_ok_iff,
    List.forall₂_map_left_iff, List.forall₂_same]
  intro record member
  rw [Record.read_toText (areWritable record member)]
  rfl

end CommandLine

end RecordStore
