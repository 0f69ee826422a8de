import Mathlib.Data.List.Chain
import RecordStore.Identifier

/-!
# Identifiers and reserved words

The search for a reserved word halves an interval of the table, and it finds
exactly the words that stand there, because the table ascends.  An identifier
is said here by its characters, which is what its place in SQL text depends on.
-/

namespace RecordStore.Keyword

/-- The entries stand in strictly ascending order. -/
def Ascending (entries : Array String) : Prop :=
  entries.toList.Pairwise (· < ·)

theorem Ascending.getElem_lt
    {entries : Array String}
    (ascending : Ascending entries)
    {first second : Nat}
    (ordered : first < second)
    (inside : second < entries.size) :
    entries[first] < entries[second] := by
  have firstInside : first < entries.toList.length := by
    simpa using ordered.trans inside
  have secondInside : second < entries.toList.length := by
    simpa using inside
  simpa using
    List.pairwise_iff_getElem.mp ascending first second
      firstInside secondInside ordered

/-- The word is the entry at some place of an interval. -/
def FoundBetween (entries : Array String) (word : String) (low high : Nat) : Prop :=
  ∃ index, ∃ inside : index < entries.size,
    low ≤ index ∧ index < high ∧ word = entries[index]

/-- In an ascending table the search finds a word exactly where it stands. -/
theorem searchBetween_eq_true_iff
    {entries : Array String}
    (ascending : Ascending entries)
    (word : String)
    (low high : Nat)
    (bounded : high ≤ entries.size) :
    searchBetween entries word low high bounded = true ↔
      FoundBetween entries word low high := by
  fun_induction searchBetween entries word low high bounded with
  | case1 low high bounded nonempty middle inside entry found =>
      have atLeast : low ≤ middle := by omega
      simp only [true_iff]
      exact ⟨middle, by omega, atLeast, inside, found⟩
  | case2 low high bounded nonempty middle inside entry missed below induction =>
      rw [induction]
      constructor
      · rintro ⟨index, indexInside, atLeast, atMost, equal⟩
        exact ⟨index, indexInside, atLeast, by omega, equal⟩
      · rintro ⟨index, indexInside, atLeast, atMost, equal⟩
        refine ⟨index, indexInside, atLeast, ?_, equal⟩
        -- An entry from the middle on is not below the middle one, as the word is.
        rcases Nat.lt_trichotomy index middle with before | same | after
        · exact before
        · subst same
          exact absurd equal missed
        · have above : entry < entries[index] :=
            ascending.getElem_lt after indexInside
          rw [← equal] at above
          exact absurd above (String.lt_asymm below)
  | case3 low high bounded nonempty middle inside entry missed notBelow induction =>
      rw [induction]
      constructor
      · rintro ⟨index, indexInside, atLeast, atMost, equal⟩
        exact ⟨index, indexInside, by omega, atMost, equal⟩
      · rintro ⟨index, indexInside, atLeast, atMost, equal⟩
        refine ⟨index, indexInside, ?_, atMost, equal⟩
        rcases Nat.lt_trichotomy index middle with before | same | after
        · have under : entries[index] < entry :=
            ascending.getElem_lt before (by omega)
          rw [← equal] at under
          exact absurd under notBelow
        · subst same
          exact absurd equal missed
        · exact after
  | case4 low high bounded empty =>
      constructor
      · intro found
        contradiction
      · rintro ⟨index, indexInside, atLeast, atMost, equal⟩
        omega

theorem table_ascending : Ascending table := by
  have chain : table.toList.IsChain (· < ·) := by
    decide +kernel
  exact chain.pairwise

/-- A word is reserved exactly when the table has it in upper case. -/
theorem isReserved_iff (word : String) :
    isReserved word = true ↔ Text.upper word ∈ table := by
  rw [isReserved, searchBetween_eq_true_iff table_ascending, Array.mem_iff_getElem]
  constructor
  · rintro ⟨index, inside, -, -, equal⟩
    exact ⟨index, inside, equal.symm⟩
  · rintro ⟨index, inside, equal⟩
    exact ⟨index, inside, Nat.zero_le index, inside, equal.symm⟩

/-- No word is reserved that starts with an underscore: it stands after all of the capitals. -/
theorem isReserved_underscore (rest : List Char) :
    isReserved (String.ofList ('_' :: rest)) = false := by
  have upper :
      (Text.upper (String.ofList ('_' :: rest))).toList = '_' :: rest.map Char.toUpper := by
    rw [Text.upper, String.toList_ofList, String.toList_ofList]
    rfl
  -- It would be the last word of the table, or stand before it.
  have ends : table.toList = table.toList.dropLast ++ ["WITHOUT"] := rfl
  have letters : "WITHOUT".toList = ['W', 'I', 'T', 'H', 'O', 'U', 'T'] := by simp
  have ascending := table_ascending
  rw [Ascending, ends, List.pairwise_append] at ascending
  by_contra isReserved
  rw [Bool.not_eq_false, isReserved_iff, Array.mem_def, ends, List.mem_append,
    List.mem_singleton] at isReserved
  rcases isReserved with isBefore | isLast
  · have isBelow := String.lt_iff.mp (ascending.2.2 _ isBefore _ (List.mem_singleton_self _))
    rw [upper, letters] at isBelow
    rcases List.cons_lt_cons_iff.mp isBelow with below | same
    · exact absurd below (by decide)
    · exact absurd same.1 (by decide)
  · rw [isLast, letters] at upper
    exact absurd (List.cons.inj upper).1 (by decide)

end RecordStore.Keyword

namespace RecordStore.Identifier

/--
An accepted name: its first character starts an identifier, the others go on
with it, its bytes are not too many, and it is not reserved.
-/
theorem check_eq_ok_iff (name : String) :
    check name = .ok () ↔
      ∃ first rest, name.toList = first :: rest ∧
        name.utf8ByteSize ≤ maximalLength ∧
        isStart first = true ∧
        (∀ c ∈ rest, isContinuation c = true) ∧
        Keyword.isReserved name = false := by
  constructor
  · intro accepted
    unfold check at accepted
    split at accepted
    · contradiction
    · next first rest spelling =>
        split at accepted
        · contradiction
        · next short =>
            split at accepted
            · contradiction
            · next start =>
                split at accepted
                · contradiction
                · next search =>
                    split at accepted
                    · contradiction
                    · next free =>
                        refine ⟨first, rest, spelling, Nat.le_of_not_lt short, ?_, ?_, ?_⟩
                        · simpa using start
                        · simpa using search
                        · simpa using free
  · rintro ⟨first, rest, spelling, short, start, continuation, free⟩
    have search : rest.find? (fun c => !isContinuation c) = none := by
      simpa using continuation
    simp [check, spelling, Nat.not_lt.mpr short, start, search, free]

theorem isContinuation_of_isStart
    {c : Char}
    (starts : isStart c = true) :
    isContinuation c = true := by
  rcases Bool.or_eq_true_iff.mp starts with letter | underscore
  · simp [isContinuation, Char.isAlphanum, letter]
  · simp [isContinuation, underscore]

/-- Every character of an accepted name goes on with a name, the first one included. -/
theorem isContinuation_of_mem
    {name : String}
    (isIdentifier : check name = .ok ())
    {c : Char}
    (member : c ∈ name.toList) :
    isContinuation c = true := by
  rcases (check_eq_ok_iff name).mp isIdentifier with
    ⟨first, rest, spelled, -, starts, areContinuations, -⟩
  rw [spelled] at member
  rcases List.mem_cons.mp member with rfl | later
  · exact isContinuation_of_isStart starts
  · exact areContinuations c later

end RecordStore.Identifier
