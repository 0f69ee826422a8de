import RecordStore.Error
import RecordStore.Location.Grammar
import RecordStore.Proofs.Identifier
import RecordStore.Proofs.Outcome

/-!
# Locations are read exactly from their texts

A text is cut at the first `://`, at the last colon and at blanks.  Each cut
is described by what stands on its two sides, and an identifier cannot be cut,
because it has neither blanks nor colons.  Together the cuts give the grammar
of locations, whatever separators the name of the database contains.

Main statement: `Location.parse_accepts_exactly_spellings`.
-/

namespace RecordStore

/-! ## Characters of identifiers -/

/-- No blank lies among the visible characters of ASCII. -/
theorem Text.isBlank_eq_false
    {c : Char}
    (above : 32 < c.toNat)
    (below : c.toNat < 133) :
    isBlank c = false := by
  have apart : ∀ range ∈ blankRanges, range.2 ≤ 32 ∨ 133 ≤ range.1 := by decide
  apply List.any_eq_false.mpr
  intro range member
  have outside := apart range member
  simp only [Bool.and_eq_true, decide_eq_true_eq]
  omega

namespace Identifier

/-- The characters of identifiers are visible, and none of them is a colon. -/
theorem code_of_isContinuation
    {c : Char}
    (continues : isContinuation c = true) :
    32 < c.toNat ∧ c.toNat < 133 ∧ c.toNat ≠ 58 := by
  rcases Bool.or_eq_true_iff.mp continues with isAlphanum | isUnderscore
  · rcases Bool.or_eq_true_iff.mp isAlphanum with isLetter | isDigit
    · rcases Bool.or_eq_true_iff.mp isLetter with isUpper | isLower
      · have code := of_decide_eq_true isUpper
        change 65 ≤ c.toNat ∧ c.toNat ≤ 90 at code
        omega
      · have code := Bool.and_eq_true_iff.mp isLower
        simp only [decide_eq_true_eq] at code
        change 97 ≤ c.toNat ∧ c.toNat ≤ 122 at code
        omega
    · have code := Bool.and_eq_true_iff.mp isDigit
      simp only [decide_eq_true_eq] at code
      change 48 ≤ c.toNat ∧ c.toNat ≤ 57 at code
      omega
  · rw [beq_iff_eq.mp isUnderscore]
    decide

section Checked

variable {name : String} (isIdentifier : check name = .ok ())
include isIdentifier

theorem toList_ne_nil : name.toList ≠ [] := by
  rcases (check_eq_ok_iff name).mp isIdentifier with ⟨first, rest, spelled, -⟩
  rw [spelled]
  exact List.cons_ne_nil first rest

theorem isBlank_of_mem
    {c : Char}
    (member : c ∈ name.toList) :
    Text.isBlank c = false := by
  have code := code_of_isContinuation (isContinuation_of_mem isIdentifier member)
  exact Text.isBlank_eq_false code.1 code.2.1

theorem colon_notMem : ':' ∉ name.toList := by
  intro member
  have code := code_of_isContinuation (isContinuation_of_mem isIdentifier member)
  exact code.2.2 rfl

end Checked

end Identifier

/-! ## Cuts -/

theorem Backend.ofScheme?_eq_some_iff (scheme : String) (backend : Backend) :
    ofScheme? scheme = some backend ↔ scheme = backend.scheme := by
  cases backend
  simp [ofScheme?]

/-- The first word has blanks before it, and a blank or nothing after it. -/
theorem Text.firstWord?_eq_some_iff {text word : List Char} :
    firstWord? text = some word ↔
      ∃ blanks tail, text = blanks ++ word ++ tail ∧
        (∀ c ∈ blanks, isBlank c = true) ∧
        word ≠ [] ∧
        (∀ c ∈ word, isBlank c = false) ∧
        ∀ c ∈ tail.head?, isBlank c = true := by
  constructor
  · intro found
    have isWord : (text.dropWhile isBlank).takeWhile (fun c => !isBlank c) = word ∧ word ≠ [] := by
      unfold firstWord? at found
      split at found
      · contradiction
      · next first rest taken =>
          cases found
          exact ⟨taken, List.cons_ne_nil first rest⟩
    rcases isWord with ⟨rfl, hasCharacter⟩
    refine
      ⟨text.takeWhile isBlank, (text.dropWhile isBlank).dropWhile (fun c => !isBlank c),
        ?_, ?_, hasCharacter, ?_, ?_⟩
    · rw [List.append_assoc, List.takeWhile_append_dropWhile, List.takeWhile_append_dropWhile]
    · intro c member
      exact List.all_eq_true.mp List.all_takeWhile c member
    · intro c member
      simpa using List.all_eq_true.mp List.all_takeWhile c member
    · intro c isHead
      have stops := List.head?_dropWhile_not (fun c => !isBlank c) (text.dropWhile isBlank)
      rw [Option.mem_def.mp isHead] at stops
      simpa using stops
  · rintro ⟨blanks, tail, rfl, areBlank, hasCharacter, noBlank, ends⟩
    have isFollowed : tail.takeWhile (fun c => !isBlank c) = [] := by
      cases tail with
      | nil => rfl
      | cons c rest => simp [ends c rfl]
    cases word with
    | nil => exact absurd rfl hasCharacter
    | cons first rest =>
        have startsWord := noBlank first List.mem_cons_self
        have taken :
            (first :: rest ++ tail).takeWhile (fun c => !isBlank c) = first :: rest := by
          rw [List.takeWhile_append_of_pos (by simpa using noBlank), isFollowed, List.append_nil]
        rw [firstWord?, List.append_assoc, List.dropWhile_append_of_pos areBlank,
          List.cons_append, List.dropWhile_cons_of_neg (by simp [startsWord]),
          ← List.cons_append, taken]

namespace Location

variable {text before after : List Char}

theorem splitScheme?_append
    (noColon : ':' ∉ before) :
    splitScheme? (before ++ ':' :: '/' :: '/' :: after) = some (before, after) := by
  induction before with
  | nil => rfl
  | cons c before induction =>
      rw [List.mem_cons, not_or] at noColon
      rw [List.cons_append, splitScheme?, induction noColon.2]
      · rfl
      · intro _ isColon
        exact absurd isColon.symm noColon.1

theorem eq_of_splitScheme?
    (cut : splitScheme? text = some (before, after)) :
    text = before ++ ':' :: '/' :: '/' :: after := by
  fun_induction splitScheme? text generalizing before with
  | case1 => contradiction
  | case2 rest =>
      cases cut
      rfl
  | case3 c rest noMark induction =>
      rcases Option.map_eq_some_iff.mp cut with ⟨⟨first, second⟩, cutLater, same⟩
      cases same
      rw [induction cutLater, List.cons_append]

theorem splitTable?_eq_none_iff (text : List Char) : splitTable? text = none ↔ ':' ∉ text := by
  induction text with
  | nil => simp [splitTable?]
  | cons c rest induction =>
      rw [splitTable?, List.mem_cons, not_or, ← induction, eq_comm (a := ':')]
      cases splitTable? rest with
      | none => simp
      | some parts => simp

/-- The last colon has no other one after it. -/
theorem splitTable?_append
    (noColon : ':' ∉ after) :
    splitTable? (before ++ ':' :: after) = some (before, after) := by
  induction before with
  | nil => rw [List.nil_append, splitTable?, (splitTable?_eq_none_iff after).mpr noColon]; rfl
  | cons c before induction => rw [List.cons_append, splitTable?, induction]

theorem eq_of_splitTable?
    (cut : splitTable? text = some (before, after)) :
    text = before ++ ':' :: after ∧ ':' ∉ after := by
  induction text generalizing before with
  | nil => contradiction
  | cons c rest induction =>
      rw [splitTable?] at cut
      split at cut
      · next first second cutLater =>
          cases cut
          rcases induction cutLater with ⟨rfl, noColon⟩
          exact ⟨rfl, noColon⟩
      · next noCut =>
          split_ifs at cut with isColon
          cases cut
          exact ⟨by rw [isColon, List.nil_append], (splitTable?_eq_none_iff after).mp noCut⟩

/-! ## Texts of locations -/

/-- A text is read if it can be cut, into the parts that the cuts give. -/
theorem parse_of_cuts
    {text table : String}
    {backend : Backend}
    {rest database after : List Char}
    (cutScheme : splitScheme? text.toList = some (backend.scheme.toList, rest))
    (cutTable : splitTable? rest = some (database, after))
    (hasDatabase : database ≠ [])
    (isWord : Text.firstWord? after = some table.toList)
    (isIdentifier : Identifier.check table = .ok ()) :
    parse text = .ok ⟨backend, String.ofList database, table⟩ := by
  have isBackend := (Backend.ofScheme?_eq_some_iff backend.scheme backend).mpr rfl
  have hasScheme : backend.scheme.toList ≠ [] := by cases backend; decide
  rcases List.exists_cons_of_ne_nil hasScheme with ⟨letter, letters, spelled⟩
  rcases List.exists_cons_of_ne_nil hasDatabase with ⟨first, others, rfl⟩
  have isScheme : String.ofList (letter :: letters) = backend.scheme := by
    rw [← spelled, String.ofList_toList]
  rw [spelled] at cutScheme
  simp [parse, cutScheme, isScheme, isBackend, cutTable, isWord, isIdentifier]

theorem cuts_of_parse
    {text : String}
    {location : Location}
    (parsed : parse text = .ok location) :
    ∃ rest after,
      splitScheme? text.toList = some (location.backend.scheme.toList, rest) ∧
        splitTable? rest = some (location.database.toList, after) ∧
        location.database ≠ "" ∧
        Text.firstWord? after = some location.table.toList ∧
        Identifier.check location.table = .ok () := by
  unfold parse at parsed
  split at parsed
  · contradiction
  · contradiction
  next scheme rest noScheme cutScheme =>
  split at parsed
  · contradiction
  next backend isBackend =>
  split at parsed
  · contradiction
  · contradiction
  next database after noDatabase cutTable =>
  split at parsed
  · contradiction
  next word isWord =>
  dsimp only at parsed
  split at parsed
  · contradiction
  next isIdentifier =>
  cases parsed
  have isScheme := (Backend.ofScheme?_eq_some_iff _ backend).mp isBackend
  refine ⟨rest, after, ?_, ?_, ?_, ?_, isIdentifier⟩
  · rw [cutScheme, ← isScheme, String.toList_ofList]
  · rw [cutTable, String.toList_ofList]
  · intro isEmpty
    exact noDatabase (String.ofList_eq_empty_iff.mp isEmpty)
  · rw [isWord, String.toList_ofList]

/-- The characters of a text with the parts of a location. -/
theorem toList_parts (database blanks table tail : String) :
    ("sqlite://" ++ database ++ ":" ++ blanks ++ table ++ tail).toList =
      "sqlite".toList ++ ':' :: '/' :: '/' ::
        (database.toList ++ ':' :: (blanks.toList ++ table.toList ++ tail.toList)) := by
  simp [String.toList_append]

theorem parse_of_isSpelling
    {location : Location}
    (proper : location.IsProper)
    {text : String}
    (spelling : location.IsSpelling text) :
    parse text = .ok location := by
  rcases spelling with ⟨blanks, tail, rfl, areBlank, noColon, ends⟩
  rcases location with ⟨backend, database, table⟩
  cases backend
  have noColonAfter : ':' ∉ blanks.toList ++ table.toList ++ tail.toList := by
    intro member
    rcases List.mem_append.mp member with inFirst | inTail
    · rcases List.mem_append.mp inFirst with inBlanks | inTable
      · exact absurd (areBlank ':' inBlanks) (by decide)
      · exact Identifier.colon_notMem proper.isIdentifier inTable
    · exact noColon inTail
  have isWord :
      Text.firstWord? (blanks.toList ++ table.toList ++ tail.toList) = some table.toList :=
    Text.firstWord?_eq_some_iff.mpr
      ⟨blanks.toList, tail.toList, rfl, areBlank, Identifier.toList_ne_nil proper.isIdentifier,
        fun c member => Identifier.isBlank_of_mem proper.isIdentifier member, ends⟩
  have cutScheme :
      splitScheme?
          ("sqlite://" ++ database ++ ":" ++ blanks ++ table ++ tail).toList =
        some (Backend.sqlite.scheme.toList,
          database.toList ++ ':' :: (blanks.toList ++ table.toList ++ tail.toList)) := by
    rw [toList_parts]
    exact splitScheme?_append (by decide)
  have hasDatabase : database.toList ≠ [] := by simpa using proper.hasDatabase
  have parsed :=
    parse_of_cuts cutScheme (splitTable?_append noColonAfter) hasDatabase isWord
      proper.isIdentifier
  rwa [String.ofList_toList] at parsed

theorem isSpelling_of_parse
    {location : Location}
    {text : String}
    (parsed : parse text = .ok location) :
    location.IsProper ∧ location.IsSpelling text := by
  rcases cuts_of_parse parsed with
    ⟨rest, after, cutScheme, cutTable, hasDatabase, isWord, isIdentifier⟩
  have isSqlite : location.backend = .sqlite := by cases location.backend; rfl
  refine ⟨⟨isSqlite, hasDatabase, isIdentifier⟩, ?_⟩
  rcases eq_of_splitTable? cutTable with ⟨rfl, noColon⟩
  rcases Text.firstWord?_eq_some_iff.mp isWord with ⟨blanks, tail, rfl, areBlank, -, -, ends⟩
  have spelled := eq_of_splitScheme? cutScheme
  refine ⟨String.ofList blanks, String.ofList tail, ?_, ?_, ?_, ?_⟩
  · rw [← String.toList_inj, spelled, toList_parts, isSqlite,
      String.toList_ofList (l := blanks), String.toList_ofList (l := tail)]
    rfl
  · simpa using areBlank
  · intro isColon
    rw [String.toList_ofList] at isColon
    exact noColon (List.mem_append_right _ isColon)
  · simpa using ends

theorem isSpelling_text
    {location : Location}
    (proper : location.IsProper) :
    location.IsSpelling location.text := by
  refine ⟨"", "", ?_, by simp, by simp, by simp⟩
  rw [text, proper.isSqlite]
  simp [Backend.scheme, String.append_assoc]

/--
A text is read as a location exactly when it has the parts of the location in
their places, and the location is proper.  Every other text is refused, with a
fault of locations.  So every proper location is read from its own text,
whatever the name of its database contains.
-/
theorem parse_accepts_exactly_spellings (text : String) :
    (∀ location, parse text = .ok location ↔ location.IsProper ∧ location.IsSpelling text) ∧
      ((∃ fault, (parse text).mapError Error.location = .error (.location fault)) ↔
        ∀ location : Location, ¬ (location.IsProper ∧ location.IsSpelling text)) ∧
      ∀ location : Location, location.IsProper → parse location.text = .ok location := by
  have accepts (location : Location) :
      parse text = .ok location ↔ location.IsProper ∧ location.IsSpelling text := by
    constructor
    · exact isSpelling_of_parse
    · rintro ⟨proper, spelling⟩
      exact parse_of_isSpelling proper spelling
  refine ⟨accepts, ?_, ?_⟩
  · simp only [← accepts]
    cases parse text with
    | ok location => simp
    | error fault => simp
  · intro location proper
    exact parse_of_isSpelling proper (isSpelling_text proper)

/-- A database whose name has the separators of locations in it. -/
def oddLocation : Location :=
  ⟨.sqlite, "a://b: c:", "items"⟩

/-- It is read with blanks before its table and words after it, and from its own text. -/
theorem odd_location_is_read :
    oddLocation.IsProper ∧
      parse "sqlite://a://b: c::\t items of mine" = .ok oddLocation ∧
      parse oddLocation.text = .ok oddLocation := by
  have proper : oddLocation.IsProper := ⟨rfl, by decide, by decide +kernel⟩
  have spelling : oddLocation.IsSpelling "sqlite://a://b: c::\t items of mine" := by
    refine ⟨"\t ", " of mine", rfl, List.all_eq_true.mp (by decide), by decide, ?_⟩
    rintro c ⟨⟩
    decide
  have accepts := parse_accepts_exactly_spellings "sqlite://a://b: c::\t items of mine"
  exact ⟨proper, (accepts.1 oddLocation).mpr ⟨proper, spelling⟩, accepts.2.2 oddLocation proper⟩

end Location

end RecordStore
